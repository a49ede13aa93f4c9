import Provenance.Context
import Provenance.Proofs.CreatedObjects

/-!
The life of a context. A history lists what has been asked of a context and the answers; in between
anything may happen to the backend and to its database (`Life`). The attachment in force can be read
off the history (`InForce`), which one more call changes only by an attachment that succeeds or a
detachment that does (`inForce_concat`), so the context is attached with just that session
(`Life.attachment_eq_some_iff`). What a call does is told by the state alone: attached, it creates
nothing but for the session (`Call.creates_for_session`), and detached, it does nothing unless it
attaches (`Call.run_of_detached`). `life_cycle` puts these together.
-/

set_option autoImplicit false
set_option relaxedAutoImplicit false

namespace Provenance

open Relational (Config World)
open Watched (Watcher)

namespace Context

/-! ### Calls -/

/-- What is asked of a context. -/
inductive Call where
  | attach (descriptor : SessionDescriptor)
  | detach
  /-- Its backend, to be used. -/
  | useBackend
  /-- The session that it is attached with. -/
  | askSession
  | createObject (space name : String) (kind : ObjectKind)
  | lookupOrCreateObject (space name : String) (kind : ObjectKind)
  | createBundle (name space : String)

/-- What a call is answered with: an id if there is one to give, or a failure. -/
abbrev Answer := Except Error (Option Nat)

variable {W H : Type} {driver : Driver W H} {backend : Backend W H}

namespace Call

def run (driver : Driver W H) : Call → Action (Context × Backend W H) (Option Nat)
  | attach descriptor => some <$> Context.attach driver descriptor
  | detach => fun (context, backend) ↦
    let (result, context) := context.detach
    (result.map fun _ ↦ none, (context, backend))
  | useBackend => withBackend fun _ ↦ pure none
  | askSession => fun (context, backend) ↦ (context.session.map some, (context, backend))
  | createObject space name kind => some <$> Context.createObject driver space name kind
  | lookupOrCreateObject space name kind =>
    some <$> Context.lookupOrCreateObject driver space name kind
  | createBundle name space => some <$> Context.createBundle driver name space

/-- Detached, a call does nothing unless it attaches. -/
theorem run_of_detached {call : Call} (hcall : ∀ descriptor, call ≠ attach descriptor)
    (backend : Backend W H) :
    (call.run driver).run (detached, backend) = (.error .notInitialized, (detached, backend)) := by
  cases call with
  | attach descriptor => exact absurd rfl (hcall descriptor)
  | _ => rfl

/-- Attached, a call that attaches does nothing. -/
theorem run_attach_of_attached (descriptor : SessionDescriptor) (session : Nat)
    (backend : Backend W H) :
    ((attach descriptor).run driver).run (⟨some session⟩, backend) =
      (.error .alreadyInitialized, (⟨some session⟩, backend)) := rfl

/-- Detached, a call that attaches does so with the session that the backend creates, if it does. -/
theorem run_attach_of_detached (descriptor : SessionDescriptor) (backend : Backend W H) :
    ((attach descriptor).run driver).run (detached, backend) =
      match Backend.createSession driver descriptor backend with
      | (.ok session, after) => (.ok (some session), (⟨some session⟩, after))
      | (.error err, after) => (.error err, (detached, after)) := by
  have hattach : (Context.attach driver descriptor).run (detached, backend) =
      match Backend.createSession driver descriptor backend with
      | (.ok session, after) => (.ok session, (⟨some session⟩, after))
      | (.error err, after) => (.error err, (detached, after)) := rfl
  rw [run, map_eq_pure_bind, Action.run_bind, hattach]
  rcases Backend.createSession driver descriptor backend with ⟨err | session, after⟩ <;> rfl

/-- Detached, a context stays so if the backend creates no session. -/
theorem fails_attach (descriptor : SessionDescriptor) (backend : Backend W H) {err : Error}
    (h : (((attach descriptor).run driver).run (detached, backend)).1 = .error err) :
    (((attach descriptor).run driver).run (detached, backend)).2.1 = detached := by
  rw [run_attach_of_detached] at h ⊢
  rcases hcreate : Backend.createSession driver descriptor backend with ⟨err' | session, after⟩
  · rfl
  · rw [hcreate] at h
    cases h

/-- Detached, a context is attached if the backend creates a session. -/
theorem exists_attach (descriptor : SessionDescriptor) (backend : Backend W H)
    (h : ∃ session, (Backend.createSession driver descriptor backend).1 = .ok session) :
    ∃ session, (((attach descriptor).run driver).run (detached, backend)).1 =
      .ok (some session) := by
  obtain ⟨session, hsession⟩ := h
  rw [run_attach_of_detached]
  rcases hcreate : Backend.createSession driver descriptor backend with ⟨err | made, after⟩
  · rw [hcreate] at hsession
    cases hsession
  · exact ⟨made, rfl⟩

/-- Attached, a call that uses the backend does so with the session. -/
theorem run_map_withBackend {α β : Type} (f : α → β) (action : Nat → Action (Backend W H) α)
    (session : Nat) (backend : Backend W H) :
    (f <$> withBackend action).run (⟨some session⟩, backend) =
      (((action session).run backend).1.map f,
        (⟨some session⟩, ((action session).run backend).2)) := by
  have hused : (withBackend action).run (⟨some session⟩, backend) =
      (((action session).run backend).1, (⟨some session⟩, ((action session).run backend).2)) := rfl
  rw [map_eq_pure_bind, Action.run_bind, hused]
  rcases (action session).run backend with ⟨err | a, after⟩ <;> rfl

theorem run_createObject (space name : String) (kind : ObjectKind) (session : Nat)
    (backend : Backend W H) :
    let made := (Backend.createObject driver space name kind session).run backend
    ((createObject space name kind).run driver).run (⟨some session⟩, backend) =
      (made.1.map some, (⟨some session⟩, made.2)) := run_map_withBackend some _ session backend

theorem run_createBundle (name space : String) (session : Nat) (backend : Backend W H) :
    let made := (Backend.createBundle driver name space session).run backend
    ((createBundle name space).run driver).run (⟨some session⟩, backend) =
      (made.1.map some, (⟨some session⟩, made.2)) := run_map_withBackend some _ session backend

/-- An object that is not found is created. -/
theorem run_lookupOrCreate_of_missing {space name : String} {kind : ObjectKind}
    {after : Backend W H} (session : Nat)
    (h : (Backend.lookupObject driver space name (some kind)).run backend =
      (.error .notFound, after)) :
    ((lookupOrCreateObject space name kind).run driver).run (⟨some session⟩, backend) =
      (((Backend.createObject driver space name kind session).run after).1.map some,
        (⟨some session⟩, ((Backend.createObject driver space name kind session).run after).2)) := by
  refine (run_map_withBackend some _ session backend).trans ?_
  simp only [Action.run] at h ⊢
  rw [h]

/-- A lookup that does not come to nothing found is all that happens. -/
theorem run_lookupOrCreate_of_looked {space name : String} {kind : ObjectKind} (session : Nat)
    (h : ((Backend.lookupObject driver space name (some kind)).run backend).1 ≠
      .error .notFound) :
    ((lookupOrCreateObject space name kind).run driver).run (⟨some session⟩, backend) =
      (((Backend.lookupObject driver space name (some kind)).run backend).1.map some,
        (⟨some session⟩,
          ((Backend.lookupObject driver space name (some kind)).run backend).2)) := by
  refine (run_map_withBackend some _ session backend).trans ?_
  simp only [Action.run] at h ⊢
  split
  · rename_i hlooked
    exact absurd (congrArg Prod.fst hlooked) h
  · rfl

/-- A call attaches if it is an attachment that succeeds, and it detaches only if it is a detachment
that does. -/
theorem attachment_run (call : Call) (context : Context) (backend : Backend W H) (session : Nat) :
    let ran := (call.run driver).run (context, backend)
    ran.2.1.attachment = some session ↔
      (∃ descriptor, (call, ran.1) = (attach descriptor, .ok (some session))) ∨
        context.attachment = some session ∧ (call = detach → ∃ err, ran.1 = .error err) := by
  intro ran
  obtain ⟨_ | current⟩ := context
  · by_cases hcall : ∃ descriptor, call = attach descriptor
    · obtain ⟨descriptor, rfl⟩ := hcall
      have hran : ran = _ := run_attach_of_detached descriptor backend
      rcases hcreate : Backend.createSession driver descriptor backend with ⟨err | made, after⟩ <;>
        rw [hcreate] at hran <;> simp [hran, detached]
    · have hran : ran = (.error .notInitialized, (detached, backend)) :=
        run_of_detached (fun descriptor h ↦ hcall ⟨descriptor, h⟩) backend
      simp [hran, detached]
  · cases call with
    | attach descriptor =>
      have hran : ran = (.error .alreadyInitialized, (⟨some current⟩, backend)) :=
        run_attach_of_attached descriptor current backend
      simp [hran]
    | detach =>
      have hran : ran = (.ok none, (detached, backend)) := rfl
      simp [hran, detached]
    | useBackend =>
      have hran : ran = (.ok none, (⟨some current⟩, backend)) := rfl
      simp [hran]
    | askSession =>
      have hran : ran = (.ok (some current), (⟨some current⟩, backend)) := rfl
      simp [hran]
    | createObject | lookupOrCreateObject | createBundle =>
      have hran : ran = _ := run_map_withBackend some _ current backend
      simp [hran]

/-- What the calls of a backend keep, a call of the context does. -/
theorem keeps_run {property : Backend W H → Prop}
    (hcall : ∀ {α : Type} (made : Reader → Except Error (Request α)) {backend : Backend W H},
      property backend → property ((Backend.call driver made).run backend).2)
    (call : Call) (context : Context) (h : property backend) :
    property ((call.run driver).run (context, backend)).2.2 := by
  obtain ⟨_ | session⟩ := context
  · cases call with
    | attach descriptor =>
      have hcreate : property (Backend.createSession driver descriptor backend).2 := hcall _ h
      change property (((attach descriptor).run driver).run (detached, backend)).2.2
      rw [run_attach_of_detached]
      rcases hcreated : Backend.createSession driver descriptor backend with
        ⟨err | session, after⟩ <;> rwa [hcreated] at hcreate
    | _ => exact h
  · cases call with
    | attach | detach | useBackend | askSession => exact h
    | createObject space name kind =>
      rw [run_createObject]
      exact hcall _ h
    | createBundle name space =>
      rw [run_createBundle]
      exact hcall _ h
    | lookupOrCreateObject space name kind =>
      by_cases hfound : ((Backend.lookupObject driver space name (some kind)).run backend).1 =
          .error .notFound
      · rw [run_lookupOrCreate_of_missing session (Prod.ext hfound rfl)]
        exact hcall _ (hcall _ h)
      · rw [run_lookupOrCreate_of_looked session hfound]
        exact hcall _ h

end Call

/-! ### Histories -/

/-- What has been asked, and the answers. -/
abbrev History := List (Call × Answer)

/-- An attachment succeeded with the session, and no detachment has succeeded since. -/
def InForce (history : History) (session : Nat) : Prop :=
  ∃ before descriptor after,
    history = before ++ (.attach descriptor, .ok (some session)) :: after ∧
      ∀ entry ∈ after, entry.1 = .detach → ∃ err, entry.2 = .error err

theorem inForce_concat {history : History} {entry : Call × Answer} {session : Nat} :
    InForce (history ++ [entry]) session ↔
      (∃ descriptor, entry = (.attach descriptor, .ok (some session))) ∨
        InForce history session ∧ (entry.1 = .detach → ∃ err, entry.2 = .error err) := by
  constructor
  · rintro ⟨before, descriptor, after, hhistory, hafter⟩
    rcases List.eq_nil_or_concat' after with rfl | ⟨rest, last, rfl⟩
    · obtain ⟨-, hentry⟩ := List.append_inj' hhistory rfl
      exact .inl ⟨descriptor, List.singleton_inj.mp hentry⟩
    · rw [← List.cons_append, ← List.append_assoc] at hhistory
      obtain ⟨rfl, hentry⟩ := List.append_inj' hhistory rfl
      obtain rfl := List.singleton_inj.mp hentry
      obtain ⟨hrest, hlast⟩ := List.forall_mem_append.mp hafter
      exact .inr ⟨⟨before, descriptor, rest, rfl, hrest⟩, List.forall_mem_singleton.mp hlast⟩
  · rintro (⟨descriptor, rfl⟩ | ⟨⟨before, descriptor, after, rfl, hafter⟩, hentry⟩)
    · exact ⟨history, descriptor, [], rfl, fun _ h ↦ absurd h List.not_mem_nil⟩
    · refine ⟨before, descriptor, after ++ [entry], by rw [List.append_assoc, List.cons_append], ?_⟩
      exact List.forall_mem_append.mpr ⟨hafter, List.forall_mem_singleton.mpr hentry⟩

/-- What a call comes to. -/
abbrev ask (config : Config) (call : Call) (s : Context × Watcher) :
    Answer × Context × Watcher := (call.run (Watched.driver config)).run s

/-- What has been asked of a context that began detached, and what has become of it and its backend.
In between anything may happen to the backend and to the files. -/
inductive Life (config : Config) (start : Watcher) : History → Context × Watcher → Prop
  | begun : Life config start [] (detached, start)
  | asked {history : History} {s : Context × Watcher} (h : Life config start history s)
      (call : Call) :
      Life config start (history ++ [(call, (ask config call s).1)]) (ask config call s).2
  | meanwhile {history : History} {context : Context} {backend after : Watcher}
      (h : Life config start history (context, backend))
      (hstep : Watched.Step config (.opened backend) (.opened after)) :
      Life config start history (context, after)

namespace Life

variable {config : Config} {start backend : Watcher} {history : History} {context : Context}
  {s : Context × Watcher}

/-- The context is attached with the session whose attachment is in force. -/
theorem attachment_eq_some_iff (h : Life config start history s) (session : Nat) :
    s.1.attachment = some session ↔ InForce history session := by
  induction h with
  | begun =>
    constructor
    · intro h
      cases h
    · rintro ⟨before, descriptor, after, hhistory, -⟩
      exact absurd hhistory.symm (List.append_ne_nil_of_right_ne_nil _ (List.cons_ne_nil _ _))
  | @asked history s h call ih =>
    rw [inForce_concat, ← ih]
    exact Call.attachment_run call s.1 s.2 session
  | meanwhile h hstep ih => exact ih

end Life

/-! ### What is created -/

namespace Call

/-- What is asked for is a new object or bundle, since it is not looked up or is not found. -/
def Creates (driver : Driver W H) (backend : Backend W H) : Call → Prop
  | createObject .. | createBundle .. => True
  | lookupOrCreateObject space name kind =>
    (Backend.lookupObject driver space name (some kind) backend).1 = .error .notFound
  | _ => False

variable {config : Config} {backend : Watcher} {session : Nat}

theorem createdFor_createObject (h : backend.Tallied (Watched.tally config)) (space name : String)
    (kind : ObjectKind) :
    let ran := (Backend.createObject (Watched.driver config) space name kind session).run backend
    World.CreatedFor session (Watched.stored backend) (Watched.stored ran.2) ran.1 := by
  refine Watched.created_by_call h fun _ request hrequest ↦ ?_
  rw [Request.ensures_createObject space name kind session request hrequest]
  exact .object space name kind

theorem createdFor_createBundle (h : backend.Tallied (Watched.tally config))
    (name space : String) :
    let ran := (Backend.createBundle (Watched.driver config) name space session).run backend
    World.CreatedFor session (Watched.stored backend) (Watched.stored ran.2) ran.1 := by
  refine Watched.created_by_call h fun _ request hrequest ↦ ?_
  rw [Request.ensures_createBundle name space session request hrequest]
  exact .bundle name space

/-- Looking an object up creates none. -/
theorem gains_lookupObject (new : ObjectRow → Prop) (h : backend.Tallied (Watched.tally config))
    (space name : String) (kind : ObjectKind) :
    World.Gains new (Watched.stored backend) (Watched.stored
      ((Backend.lookupObject (Watched.driver config) space name (some kind)).run backend).2) := by
  refine Watched.gains_of_call h fun reader request hrequest ↦ ?_
  have hquery : request.query = .lookupObjectByType :=
    (Operation.lookupObject space name (some kind)).ensures_query reader request hrequest
  show request.query.fills ≠ some .objects
  rw [hquery]
  exact fun hfills ↦ nomatch hfills

/-- Attached, a call creates nothing but for the session, and the id of what it creates is that of
an object of the session. -/
theorem creates_for_session (h : backend.Tallied (Watched.tally config)) (call : Call)
    (session : Nat) :
    let ran := ask config call (⟨some session⟩, backend)
    World.Gains (fun row ↦ row.session = .int session) (Watched.stored backend)
        (Watched.stored ran.2.2) ∧
      (call.Creates (Watched.driver config) backend → ∀ id, ran.1 = .ok (some id) →
        ∃ s row, (Watched.stored ran.2.2).Serves s ∧ row ∈ s.objects ∧ row.id = id ∧
          row.session = .int session) := by
  intro ran
  have hid : ∀ {answer : Except Error Nat} {id : Nat}, answer.map some = .ok (some id) →
      answer = .ok id := by
    rintro (_ | found) id h
    · cases h
    · exact congrArg Except.ok (Option.some.inj (Except.ok.inj h))
  cases call with
  | attach | detach | useBackend | askSession => exact ⟨.refl _ _, fun hcreates ↦ hcreates.elim⟩
  | createObject space name kind =>
    have hran : ran = _ := run_createObject space name kind session backend
    obtain ⟨hgains, hcreated⟩ := createdFor_createObject h space name kind
    rw [hran]
    exact ⟨hgains, fun _ id hanswer ↦ hcreated id (hid hanswer)⟩
  | createBundle name space =>
    have hran : ran = _ := run_createBundle name space session backend
    obtain ⟨hgains, hcreated⟩ := createdFor_createBundle h name space
    rw [hran]
    exact ⟨hgains, fun _ id hanswer ↦ hcreated id (hid hanswer)⟩
  | lookupOrCreateObject space name kind =>
    have hlooked := gains_lookupObject (fun row ↦ row.session = .int session) h space name kind
    have hkept : (((Backend.lookupObject (Watched.driver config) space name (some kind)).run
      backend).2).Tallied (Watched.tally config) := h.call _
    by_cases hfound : ((Backend.lookupObject (Watched.driver config) space name (some kind)).run
      backend).1 = .error .notFound
    · have hran : ran = _ := run_lookupOrCreate_of_missing session (Prod.ext hfound rfl)
      obtain ⟨hgains, hcreated⟩ := createdFor_createObject hkept space name kind
      rw [hran]
      exact ⟨hlooked.trans hgains, fun _ id hanswer ↦ hcreated id (hid hanswer)⟩
    · have hran : ran = _ := run_lookupOrCreate_of_looked session hfound
      rw [hran]
      exact ⟨hlooked, fun hcreates ↦ absurd hcreates hfound⟩

end Call

end Context

/-! ### Attaching -/

/-- A session is refused only for want of a time. -/
theorem Store.exists_addSession {started : Value} (h : started.isNull = false)
    (macAddress user pid program commandLine : Value) (s : Store) :
    ∃ s', s.addSession started macAddress user pid program commandLine =
      .ok (returned (s.lastSession + 1), s') := by
  rw [addSession, h]
  exact ⟨_, rfl⟩

namespace Watched

/-- Nothing stands in the way of a new session: a connection is open to tables that may be written
to and that nobody else holds, the clock shows a time, and nothing is planned to fail. -/
structure TakesSessions (backend : Watcher) : Prop where
  opened : backend.connection.isConnected = true
  serves : ∃ link s, (stored backend).link = some link ∧
    (stored backend).contents link = .tables s ∧ (stored backend).holds link = false ∧
      link.readOnly = false
  clock : (stored backend).now.isNull = false
  unplanned : ∀ point, backend.connection.world.world.plan.queues point = []

/-- A valid session is created where nothing stands in its way. -/
theorem TakesSessions.exists_session {config : Config} {backend : Watcher}
    (h : TakesSessions backend) (htallied : backend.Tallied (tally config))
    {descriptor : SessionDescriptor}
    (hvalid : ∀ operand ∈ (Operation.createSession descriptor).operands, ¬ operand.Refused) :
    ∃ session, (Backend.createSession (driver config) descriptor backend).1 = .ok session := by
  obtain ⟨request, hrequest⟩ := Operation.exists_request backend.reader hvalid
  obtain ⟨link, s, hlink, hcontents, hfree, hwritable⟩ := h.serves
  obtain rfl := Request.ensures_createSession descriptor request hrequest
  obtain ⟨s', hadd⟩ := s.exists_addSession h.clock (.text descriptor.macAddress)
    (.text descriptor.user) (.int descriptor.pid) (.text descriptor.program)
    (.text descriptor.commandLine)
  let after := (stored backend).afterQuery .createSession link s'
  have hserve : (stored backend).serve (.oneId .createSession [.text descriptor.macAddress,
      .text descriptor.user, .int descriptor.pid, .text descriptor.program,
      .text descriptor.commandLine]) = .ok (Store.returned (s.lastSession + 1), after) := by
    simp only [World.serve, hlink]
    exact Relational.runQuery_eq_ok_iff.mpr
      ⟨fun _ ↦ hwritable, hfree, s, s', hcontents, hadd, rfl⟩
  exact ⟨s.lastSession + 1, (call_of_serve htallied hrequest h.opened h.unplanned hserve).trans
    (Request.readOff_oneId _ _ _)⟩

end Watched

namespace Context

variable {config : Config} {start : Watcher} {history : History} {s : Context × Watcher}

theorem Life.tallied (h : Life config start history s)
    (hstart : start.Tallied (Watched.tally config)) : s.2.Tallied (Watched.tally config) := by
  induction h with
  | begun => exact hstart
  | @asked history s h call ih =>
    have hcall : ∀ {α : Type} (made : Reader → Except Error (Request α)) {backend : Watcher},
        backend.Tallied (Watched.tally config) →
        ((Backend.call (Watched.driver config) made).run backend).2.Tallied
          (Watched.tally config) := fun made _ hkept ↦ hkept.call made
    exact call.keeps_run hcall s.1 ih
  | meanwhile h hstep ih => exact hstep.tallied ih

/-- How a context behaves that has got where it is by this history. -/
structure Conduct (config : Config) (history : History) (context : Context) (backend : Watcher) :
    Prop where
  /-- It is attached while an attachment is in force. -/
  attached : context.isAttached = true ↔ ∃ session, InForce history session
  /-- Its session is the one of the attachment in force. -/
  session : ∀ session, context.session = .ok session ↔ InForce history session
  /-- Attached, it is not attached again, and nothing is done. -/
  again : context.isAttached = true → ∀ descriptor,
    ask config (.attach descriptor) (context, backend) =
      (.error .alreadyInitialized, (context, backend))
  /-- Detached, it refuses what does not attach it, and nothing is done. -/
  refuses : context.isAttached = false → ∀ call : Call, (∀ descriptor, call ≠ .attach descriptor) →
    ask config call (context, backend) = (.error .notInitialized, (context, backend))
  /-- Detached, it stays so if it cannot be attached. -/
  fails : context.isAttached = false → ∀ descriptor err,
    (ask config (.attach descriptor) (context, backend)).1 = .error err →
    (ask config (.attach descriptor) (context, backend)).2.1 = detached
  /-- Detached, it is attached if the session is valid and nothing stands in its way. -/
  attaches : context.isAttached = false → Watched.TakesSessions backend → ∀ descriptor,
    (∀ operand ∈ (Operation.createSession descriptor).operands, ¬ operand.Refused) →
    ∃ session, (ask config (.attach descriptor) (context, backend)).1 = .ok (some session)
  /-- Attached, it creates nothing but for its session, and the id that it gives of what it creates
  is that of an object of the session. -/
  creates : ∀ session, context.session = .ok session → ∀ call : Call,
    World.Gains (fun row ↦ row.session = .int session) (Watched.stored backend)
        (Watched.stored (ask config call (context, backend)).2.2) ∧
      (call.Creates (Watched.driver config) backend → ∀ id,
        (ask config call (context, backend)).1 = .ok (some id) →
        ∃ s row, (Watched.stored (ask config call (context, backend)).2.2).Serves s ∧
          row ∈ s.objects ∧ row.id = id ∧ row.session = .int session)

/-- Whatever has been asked of a context, and whatever has become of its backend meanwhile: it is
attached with the session of the attachment in force, if one is; then it cannot be attached again
and creates nothing but for the session; and if not, it can only be attached. -/
theorem life_cycle (hstart : Watched.Reachable config (.opened start))
    (h : Life config start history s) : Conduct config history s.1 s.2 := by
  have htallied := h.tallied hstart.tallied
  have hforce := h.attachment_eq_some_iff
  obtain ⟨⟨_ | current⟩, backend⟩ := s
  · have hnone : ∀ session, ¬ InForce history session :=
      fun session hsession ↦ nomatch (hforce session).mpr hsession
    exact {
      attached := ⟨(nomatch ·), fun ⟨session, hin⟩ ↦ absurd hin (hnone session)⟩
      session := fun session ↦ ⟨(nomatch ·), fun hin ↦ absurd hin (hnone session)⟩
      again := (nomatch ·)
      refuses := fun _ call hcall ↦ Call.run_of_detached hcall backend
      fails := fun _ descriptor err ↦ Call.fails_attach descriptor backend
      attaches := fun _ htakes descriptor hvalid ↦
        Call.exists_attach descriptor backend (htakes.exists_session htallied hvalid)
      creates := fun session ↦ (nomatch ·) }
  · have hcurrent : ∀ session, current = session ↔ InForce history session :=
      fun session ↦ Option.some_inj.symm.trans (hforce session)
    have hgiven : ∀ session, Context.session ⟨some current⟩ = .ok session ↔ current = session :=
      fun session ↦ ⟨fun h ↦ Except.ok.inj h, fun h ↦ congrArg Except.ok h⟩
    exact {
      attached := ⟨fun _ ↦ ⟨current, (hcurrent current).mp rfl⟩, fun _ ↦ rfl⟩
      session := fun session ↦ (hgiven session).trans (hcurrent session)
      again := fun _ descriptor ↦ Call.run_attach_of_attached descriptor current backend
      refuses := (nomatch ·)
      fails := (nomatch ·)
      attaches := (nomatch ·)
      creates := fun session hsession call ↦ by
        obtain rfl := (hgiven session).mp hsession
        exact call.creates_for_session htallied current }

/-- What comes of some calls in a row, each with its answer. -/
def askAll (config : Config) : List Call → Context × Watcher → History × Context × Watcher
  | [], s => ([], s)
  | call :: rest, s =>
    let (history, last) := askAll config rest (ask config call s).2
    ((call, (ask config call s).1) :: history, last)

theorem Life.askAll (h : Life config start history s) (calls : List Call) :
    Life config start (history ++ (Context.askAll config calls s).1)
      (Context.askAll config calls s).2 := by
  induction calls generalizing history s with
  | nil =>
    rw [Context.askAll, List.append_nil]
    exact h
  | cons call rest ih =>
    have hrest := ih (h.asked call)
    rwa [List.append_assoc] at hrest

/-- The second backend on a file, where the next row to be read is planned not to be. -/
def unreadable : Watcher :=
  { Watched.remade with
    connection := { Watched.remade.connection with
      world := Watched.replan (fun point ↦ if point = .fetch then [FaultPlan.linkFailure] else [])
        Watched.remade.connection.world } }

/-- An attachment that fails once its session has been stored leaves the context detached; the next
one attaches it, and it creates an object for the session of that one. -/
theorem attached_after_failure :
    let config := FileSite.named.config
    let descriptor : SessionDescriptor := ⟨"00:00:00:00:00:00", "user", 1, "program", "program -f"⟩
    let calls : List Call := [.attach descriptor, .createBundle "bundle" "", .attach descriptor,
      .attach descriptor, .createObject "" "object" .entity]
    let ended := askAll config calls (detached, unreadable)
    ended.1.map (·.2) = [.error (.statement "CreateSession"), .error .notInitialized,
        .ok (some 2), .error .alreadyInitialized, .ok (some 1)] ∧
      ended.2.1.session = .ok 2 ∧ InForce ended.1 2 ∧
      Conduct config ended.1 ended.2.1 ended.2.2 ∧
      ((Watched.stored ended.2.2).contentsAt (some FileSite.named.path)).objects.map (·.session) =
        [.int 2] := by
  intro config descriptor calls ended
  have hbegun : Life config Watched.remade [] (detached, unreadable) :=
    Life.begun.meanwhile (.planned (.opened Watched.remade) _)
  have hlife : Life config Watched.remade ([] ++ ended.1) ended.2 := hbegun.askAll calls
  rw [List.nil_append] at hlife
  have hconduct := life_cycle Watched.reachable_remade hlife
  have hsession : ended.2.1.session = .ok 2 := by decide +kernel
  exact ⟨by decide +kernel, hsession, (hconduct.session 2).mp hsession, hconduct,
    by decide +kernel⟩

end Context

end Provenance
