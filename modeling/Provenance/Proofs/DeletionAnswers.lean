import Provenance.Proofs.Recovery
import Provenance.Proofs.RowReadings

/-!
What the deletion of a bundle answers. It says that it is done if the row of the bundle was the last
to go, and that nothing was found if no row was given out. A bundle that is recorded as a member of
itself goes with its members, before its turn comes, and so is not found though it was there and
goes (`deletion_answers`, `deleted_but_not_found`).
-/

set_option autoImplicit false
set_option relaxedAutoImplicit false

namespace Provenance

namespace Store

variable {s s' : Store} {id : Nat}

/-- The id is that of a bundle. -/
def HasBundle (s : Store) (id : Nat) : Prop := ∃ b ∈ s.objects, b.id = id ∧ b.isBundle = true

instance (s : Store) (id : Nat) : Decidable (s.HasBundle id) :=
  inferInstanceAs (Decidable (∃ b ∈ s.objects, _))

/-- Where there is no bundle nothing is deleted. -/
theorem deleteBundle_of_absent (h : ¬ s.HasBundle id) : s.deleteBundle (.int id) = ([], s) := by
  rcases s.deleteBundle_cases id with hnone | ⟨b, hb, hkind, hid⟩
  · exact hnone
  · exact absurd ⟨b, hb, hid, hkind⟩ h

/-- What a deletion answers, and what it leaves. -/
inductive Answers (s : Store) (id : Nat) : Except Error Unit → Store → Prop
  /-- The bundle has gone after its members. -/
  | done {s' : Store} (hbundle : s.HasBundle id) (hself : ¬ s.Takes id id)
      (hdeleted : Deleted id s s') : Answers s id (.ok ()) s'
  /-- There is no bundle, and nothing has happened. -/
  | absent (hbundle : ¬ s.HasBundle id) : Answers s id (.error .notFound) s
  /-- The bundle has gone as one of its own members. -/
  | taken {s' : Store} (hbundle : s.HasBundle id) (hself : s.Takes id id)
      (hdeleted : Deleted id s s') : Answers s id (.error .notFound) s'

/-- The request of a deletion gets one of these answers from the store. -/
theorem answers_served {request : Request Unit} (h : Request.deleteBundle id = .ok request)
    (now : Value) :
    s.Answers id (s.served now request).1 (s.served now request).2 := by
  obtain ⟨hquery, hparams, hnone⟩ := Request.ensures_deleteBundle id request h
  have hserved : s.served now request =
      (request.readOff (s.deleteBundle (.int id)).1, (s.deleteBundle (.int id)).2) := by
    refine served_of_ok ?_
    rw [reply, hquery, hparams]
    rfl
  rw [hserved]
  by_cases hbundle : s.HasBundle id
  · obtain ⟨b, hb, rfl, hkind⟩ := hbundle
    have hdeleted := deleted_deleteBundle hb hkind
    rw [rows_deleteBundle hb hkind]
    by_cases hself : s.Takes b.id b.id
    · rw [if_pos hself, hnone]
      exact .taken ⟨b, hb, rfl, hkind⟩ hself hdeleted
    · rw [if_neg hself, Request.readOff_deleteBundle h]
      exact .done ⟨b, hb, rfl, hkind⟩ hself hdeleted
  · rw [deleteBundle_of_absent hbundle, hnone]
    exact .absent hbundle

section Answers

variable {result : Except Error Unit}

theorem Answers.ok_iff (h : s.Answers id result s') :
    result = .ok () ↔ s.HasBundle id ∧ ¬ s.Takes id id := by
  constructor
  · rintro rfl
    cases h with
    | done hbundle hself hdeleted => exact ⟨hbundle, hself⟩
  · rintro ⟨hbundle, hself⟩
    cases h with
    | done => rfl
    | absent hnone => exact absurd hbundle hnone
    | taken _ htaken => exact absurd htaken hself

/-- After a deletion the bundle is not there, whatever the answer was. -/
theorem Answers.not_hasBundle (h : s.Answers id result s') : ¬ s'.HasBundle id := by
  rintro ⟨b, hb, rfl, hkind⟩
  have hleft : s'.hasObject b.id = true := hasObject_iff.mpr ⟨b, hb, rfl⟩
  cases h with
  | done _ _ hdeleted => exact ((hdeleted.objects b.id).mp hleft).2.1 rfl
  | absent hnone => exact hnone ⟨b, hb, rfl, hkind⟩
  | taken _ _ hdeleted => exact ((hdeleted.objects b.id).mp hleft).2.1 rfl

end Answers

end Store

theorem Operation.conclude_deleteBundle {C : Type} (id : Nat)
    (callback : Listed → Action C Unit) (result : Except Error Unit) (c : C) :
    (deleteBundle id).form.conclude callback result c = (result.map fun _ ↦ .done, c) := by
  cases result <;> rfl

namespace FileSite

variable {site : FileSite} {s : Store} {backend : FileBackend} {id : Nat}

/-- Whatever id a deletion is asked for in whatever file, with nothing planned to fail: it is done
if and only if the id is that of a bundle that is no member of itself, not counting a membership
that is itself a member of the bundle. Otherwise nothing is found: there is no such bundle and
nothing has happened, or the bundle is a member of itself and has gone with its members. -/
theorem deletion_answers (hreach : site.Reachable (.opened backend))
    (hopens : backend.connection.isConnected = true ∨ backend.options.maxRetries ≠ 0)
    (hqueues : ∀ point, backend.connection.world.plan.queues point = [])
    (hkeeps : site.Keeps backend.connection.world.world s) (hpos : 0 < id) (hid : id ≤ Limit.id)
    {C : Type} (callback : Listed → Action C Unit) (c : C) :
    ∃ result s' after,
      ((Operation.deleteBundle id).run site.driver (Operation.passive callback)).run (c, backend) =
        (result.map fun _ ↦ .done, (c, after)) ∧
      site.Keeps after.connection.world.world s' ∧ s.Answers id result s' ∧
      (result = .ok () ↔ s.HasBundle id ∧ ¬ s.Takes id id) ∧ ¬ s'.HasBundle id := by
  obtain ⟨t, -, hsettled⟩ := hreach.exists_store
  obtain rfl : t = s := (Connection.Settled.keeps hsettled).unique hkeeps
  obtain ⟨read, hrequest⟩ := Operation.request_deleteBundle hpos hid backend.reader
  obtain ⟨after, live, hrun, hopen, -⟩ :=
    run_of_quiet hsettled hopens hqueues hrequest callback c
  have hanswers := t.answers_served hrequest backend.connection.world.world.now
  refine ⟨_, _, after, hrun.trans ?_, hopen.keeps, hanswers, hanswers.ok_iff,
    hanswers.not_hasBundle⟩
  exact congrArg (fun concluded ↦ (concluded.1, (concluded.2, after)))
    (Operation.conclude_deleteBundle id callback _ c)

/-- A bundle that is recorded as a member of itself. -/
def looped : List Operation :=
  [.createSession ⟨"00:00:00:00:00:00", "user", 1, "program", "program --flag"⟩,
    .createBundle "loop" "" 1, .addRelation 1 1 .inBundle]

/-- The bundle was there and is gone, and yet it was not found. -/
theorem deleted_but_not_found :
    named.Reachable (.opened (named.afterAll looped first)) ∧
      (∀ point, (named.afterAll looped first).connection.world.plan.queues point = []) ∧
      ∃ s s', named.Keeps (named.afterAll looped first).connection.world.world s ∧
        s.HasBundle 1 ∧
        (((Operation.deleteBundle 1).run named.driver (Operation.passive Operation.ignore)).run
          ((), named.afterAll looped first)).1 = .error .notFound ∧
        named.Keeps
          (named.afterAll (looped ++ [.deleteBundle 1]) first).connection.world.world s' ∧
        s' ≠ s ∧ s'.hasObject 1 = false :=
  ⟨reachable_first.afterAll _, fun _ ↦ rfl, _, _, ⟨⟨rfl, by decide⟩, rfl⟩, by decide +kernel, rfl,
    ⟨⟨rfl, by decide⟩, rfl⟩, by decide +kernel, rfl⟩

/-- The deletion of a bundle that holds itself finds nothing and leaves a store without it. -/
theorem answer_of_looped_deletion :
    ∃ s s' after,
      named.Keeps (named.afterAll looped first).connection.world.world s ∧
      ((Operation.deleteBundle 1).run named.driver (Operation.passive Operation.ignore)).run
        ((), named.afterAll looped first) = (.error .notFound, ((), after)) ∧
      named.Keeps after.connection.world.world s' ∧
      s.Answers 1 (.error .notFound) s' ∧ s.HasBundle 1 ∧ ¬ s'.HasBundle 1 := by
  obtain ⟨result, s', after, hrun, hkeeps, hanswers, hok, habsent⟩ :=
    deletion_answers (reachable_first.afterAll looped) (.inl rfl) (fun _ ↦ rfl)
      ⟨⟨rfl, by decide⟩, rfl⟩ (show 0 < 1 by decide) (by decide) Operation.ignore ()
  have hfound : ¬ result = .ok () := fun hdone ↦ (hok.mp hdone).2 (by decide +kernel)
  cases hanswers with
  | done => exact absurd rfl hfound
  | absent hnone => exact absurd (by decide +kernel) hnone
  | taken hbundle hself hdeleted =>
    exact ⟨_, s', after, ⟨⟨rfl, by decide⟩, rfl⟩, hrun, hkeeps, .taken hbundle hself hdeleted,
      hbundle, habsent⟩

end FileSite

end Provenance
