import Provenance.Proofs.LastPass
import Provenance.Proofs.Notes

/-!
Notes are kept for as long as their owners. Along any history of a file the calls are recorded with
what they answered (`FileSite.Records`). A note is stored exactly if the call that adds it is
answered, whatever failures are met, since nothing is fetched for it; an id is never handed out
again, so no note of a row that has gone comes back with another one (`Store.Noted`). What is listed
for an owner that is there is therefore what the answered calls have noted of it in this very table,
in their order, repetitions included, with its texts cut to what the options allow; a prefix or a
key leaves those that begin with it, and for an owner that has gone there is nothing
(`notes_listed`).
-/

set_option autoImplicit false
set_option relaxedAutoImplicit false

namespace Provenance

open Relational (Statement World)
open Store (Notes)

/-- Operations one after another, each with what it answered. -/
abbrev Calls := List (Operation × Except Error Answer)

/-- What calls have added to a table of notes: a call that fails adds nothing. -/
def Store.Notes.recorded (notes : Notes) (calls : Calls) : List (Nat × List String) :=
  calls.flatMap fun call ↦ if call.2.isOk then call.1.noted notes else []

namespace Store

variable {s s' : Store} {calls : Calls} {op : Operation} {answer : Except Error Answer}

theorem Notes.recorded_concat (notes : Notes) (calls : Calls) (op : Operation)
    (answer : Except Error Answer) :
    notes.recorded (calls ++ [(op, answer)]) =
      notes.recorded calls ++ if answer.isOk then op.noted notes else [] := by
  rw [recorded, List.flatMap_append, List.flatMap_singleton]
  rfl

/-- The notes in the store are those recorded whose owner is there, and the owners of all of them
have ids that have been handed out. -/
structure Noted (s : Store) (calls : Calls) : Prop where
  rows : ∀ notes : Notes, notes.rows s = ((notes.recorded calls).filter
    fun note ↦ note.1 ∈ notes.owners.ids s).map storedNote
  past : ∀ notes : Notes, ∀ note ∈ notes.recorded calls, note.1 ≤ notes.owners.last s

theorem noted_empty : empty.Noted [] where
  rows notes := by cases notes <;> rfl
  past notes note hnote := absurd hnote List.not_mem_nil

/-- A call that has not reached the store adds nothing. -/
theorem Noted.skip (h : s.Noted calls) (hskip : answer.isOk = false ∨ op.note? = none) :
    s.Noted (calls ++ [(op, answer)]) := by
  have hsame : ∀ notes : Notes, notes.recorded (calls ++ [(op, answer)]) =
      notes.recorded calls := by
    intro notes
    rw [Notes.recorded_concat]
    rcases hskip with hfailed | hnone
    · rw [hfailed, if_neg Bool.false_ne_true, List.append_nil]
    · rw [Operation.noted_of_note?_eq_none hnone, ite_self, List.append_nil]
  constructor
  · intro notes
    rw [hsame]
    exact h.rows notes
  · intro notes
    rw [hsame]
    exact h.past notes

variable {now : Value} {reader : Reader} {request : Request op.form.Rows} {rows : List Row}

/-- A request that has reached the store adds its note. -/
theorem Noted.of_run (h : s.Noted calls) (hs : s.Reachable)
    (hrequest : op.form.request reader = .ok request)
    (hrun : s.run now request.query request.params = .ok (rows, s'))
    (hanswer : answer.isOk = true ∨ op.note? = none) : s'.Noted (calls ++ [(op, answer)]) := by
  have hstep : s.Step s' := .request now op reader request hrequest hrun
  have hs' : s'.Reachable := hs.step hstep
  have hrecorded : ∀ notes : Notes, notes.recorded (calls ++ [(op, answer)]) =
      notes.recorded calls ++ op.noted notes := by
    intro notes
    rw [Notes.recorded_concat]
    rcases hanswer with hok | hnone
    · rw [hok, if_pos rfl]
    · rw [Operation.noted_of_note?_eq_none hnone, ite_self]
  constructor
  · intro notes
    -- An owner that is there now and had its id before was there before.
    have hthere : ∀ note ∈ notes.recorded calls, note.1 ∈ notes.owners.ids s' →
        note.1 ∈ notes.owners.ids s := by
      intro note hnote hid
      by_contra habsent
      exact ((hstep.follows hs notes.owners).absent (h.past notes note hnote) habsent).2 hid
    have hleft : ((notes.recorded calls).filter fun note ↦ note.1 ∈ notes.owners.ids s).filter
          (fun note ↦ note.1 ∈ notes.owners.ids s') =
        (notes.recorded calls).filter fun note ↦ note.1 ∈ notes.owners.ids s' := by
      rw [List.filter_filter]
      refine List.filter_congr fun note hnote ↦ ?_
      rw [← Bool.decide_and, decide_eq_decide]
      exact ⟨And.left, fun hid ↦ ⟨hid, hthere note hnote hid⟩⟩
    rw [Operation.notes_of_run hs hrequest hrun, h.rows notes, hrecorded, ← List.map_append,
      List.filter_map, List.filter_append, List.filter_append, ← hleft]
    rfl
  · intro notes note hnote
    rw [hrecorded, List.mem_append] at hnote
    rcases hnote with hold | hnew
    · have hle := h.past notes note hold
      rcases hstep.follows hs notes.owners with ⟨-, hlast⟩ | ⟨-, hlast⟩ <;> omega
    · refine (hs'.counted notes.owners).le_last ?_
      cases hnote : op.note? with
      | none =>
        rw [Operation.noted_of_note?_eq_none hnote] at hnew
        cases hnew
      | some added =>
        refine notes.owner_mem_ids hs'.anchored_numbered.1 (storedNote note) ?_
        rw [Operation.rows_of_note? hnote hrequest hrun]
        exact List.mem_append_right _ (List.mem_map_of_mem hnew)

end Store

/-! ### One call -/

/-- A call of a request whose rows nobody reads fails and leaves the store as it was, or it is
answered and the store has served it. -/
theorem Backend.call_command_cases {site : FileSite} {s : Store} {backend : FileBackend}
    {request : Reader → Except Error (Request Unit)}
    (hcommand : Ensures (request backend.reader) fun valid ↦
      ∃ query params, valid = .command query params)
    (h : backend.connection.Settled site s) :
    ∃ s', ((call site.driver request).run backend).2.connection.Settled site s' ∧
      ((∃ err, ((call site.driver request).run backend).1 = .error err) ∧ s' = s ∨
        ((call site.driver request).run backend).1 = .ok () ∧
          ∃ valid rows, request backend.reader = .ok valid ∧
            s.reply backend.connection.world.world.now valid = .ok (rows, s')) := by
  cases hrequest : request backend.reader with
  | error err =>
    rw [run_call_of_error hrequest]
    exact ⟨s, h, .inl ⟨⟨err, rfl⟩, rfl⟩⟩
  | ok valid =>
    obtain ⟨query, params, rfl⟩ := hcommand valid hrequest
    rw [run_call_of_ok hrequest]
    rcases Connection.perform_command query params backend.options.maxRetries 0 h with
      ⟨err, c', hperform, hspared⟩ | ⟨c', rows, s', hperform, hserved⟩
    · rw [hperform]
      exact ⟨s, hspared.settled, .inl ⟨⟨err, rfl⟩, rfl⟩⟩
    · rw [hperform]
      exact ⟨s', .inl hserved.isOpen, .inr ⟨rfl, _, rows, rfl, hserved.reply⟩⟩

namespace Operation

variable {op : Operation}

/-- Nobody reads what a request for a note gives out. -/
theorem exists_command_of_note? {note : Notes × Nat × List String} (h : op.note? = some note) :
    ∃ request : Reader → Except Error (Request Unit),
      op.form = .answering request (fun _ ↦ .done) ∧ ∀ reader, Ensures (request reader)
        fun valid ↦ ∃ query params, valid = .command query params := by
  cases op with
  | addObjectProperty id space key value | addRelationProperty id space key value
  | addBundleProperty id space key value =>
    exact ⟨_, rfl, fun reader request hrequest ↦
      ⟨_, _, Request.ensures_command_addProperty _ _ id space key value request hrequest⟩⟩
  | addPrefix bundle space iri =>
    exact ⟨_, rfl, fun reader request hrequest ↦
      ⟨_, _, Request.ensures_command_addPrefix bundle space iri request hrequest⟩⟩
  | _ => cases h

theorem writes_of_note? {note : Notes × Nat × List String} (h : op.note? = some note) :
    op.writes = true := by
  cases op <;> first
    | rfl
    | cases h

end Operation

namespace FileSite

variable {site : FileSite} {s : Store} {backend : FileBackend} {op : Operation} {calls : Calls}

/-- A call for a note fails and leaves the store as it was, or it is answered and the store has
served its request. -/
theorem call_of_note? {note : Notes × Nat × List String} (hnote : op.note? = some note)
    (h : backend.connection.Settled site s) {C : Type} (callback : Listed → Action C Unit) (c : C) :
    ∃ s' answer after,
      (op.run site.driver (Operation.passive callback)).run (c, backend) = (answer, (c, after)) ∧
      after.connection.Settled site s' ∧
      ((∃ err, answer = .error err) ∧ s' = s ∨
        answer = .ok .done ∧ ∃ request rows, op.form.request backend.reader = .ok request ∧
          s.run backend.connection.world.world.now request.query request.params =
            .ok (rows, s')) := by
  have hrun := Operation.run_of_writes (Operation.writes_of_note? hnote) site.driver
    (Operation.passive callback) c backend
  obtain ⟨request, hform, hcommand⟩ := Operation.exists_command_of_note? hnote
  rw [hform] at hrun
  let finish (result : Except Error Unit) : Except Error Answer :=
    result.bind fun _ ↦ .ok .done
  obtain ⟨s', hsettled, ⟨⟨err, hfailed⟩, rfl⟩ | ⟨hdone, hserved⟩⟩ :=
    Backend.call_command_cases (hcommand backend.reader) h
  · exact ⟨s', _, _, hrun, hsettled, .inl ⟨⟨err, congrArg finish hfailed⟩, rfl⟩⟩
  · have hreply : ∃ request rows, op.form.request backend.reader = .ok request ∧
        s.reply backend.connection.world.world.now request = .ok (rows, s') := by
      rw [hform]
      exact hserved
    obtain ⟨valid, rows, hrequest, hreply⟩ := hreply
    exact ⟨s', _, _, hrun, hsettled, .inr ⟨congrArg finish hdone, valid, rows, hrequest,
      Operation.run_of_reply hrequest hreply⟩⟩

/-! ### Histories with their calls -/

/-- Steps lead from one state to another, and on the way these operations have been performed, each
with this answer. -/
inductive Records (site : FileSite) (start : State) : Calls → State → Prop
  | refl : Records site start [] start
  | idle {calls : Calls} {state state' : State} (h : Records site start calls state)
      (hidle : site.Idles state state') : Records site start calls state'
  | performed {calls : Calls} {backend : FileBackend}
      (h : Records site start calls (.opened backend)) (op : Operation) {C : Type}
      (callback : Listed → Action C Unit) (c : C) :
      Records site start
        (calls ++
          [(op, ((op.run site.driver (Operation.passive callback)).run (c, backend)).1)])
        (.opened ((op.run site.driver (Operation.passive callback)).run (c, backend)).2.2)

variable {start state state' : State}

theorem Records.leads (h : site.Records start calls state) : site.Leads start state := by
  induction h with
  | refl => exact .refl
  | idle _ hidle ih => exact ih.step hidle.step
  | performed _ op callback c ih => exact ih.step (.performed _ op callback c)

/-- A callback that runs operations of its own continues the history. -/
theorem Records.run_of_callback {C : Type} {callback : Listed → Action (C × FileBackend) Unit}
    (hcallback : ∀ row c backend calls, site.Records start calls (.opened backend) →
      ∃ more, site.Records start (calls ++ more) (.opened ((callback row).run (c, backend)).2.2))
    (op : Operation) (c : C) (h : site.Records start calls (.opened backend)) :
    ∃ more, site.Records start (calls ++ more)
      (.opened ((op.run site.driver callback).run (c, backend)).2.2) := by
  let continues (after : C × FileBackend) : Prop :=
    ∃ more, site.Records start (calls ++ more) (.opened after.2)
  have hcall : continues
      ((Action.onSecond (Backend.call site.driver op.form.request)).run (c, backend)).2 := by
    have hperformed := h.performed op Operation.ignore ()
    rw [Operation.run_passive_backend] at hperformed
    exact ⟨_, hperformed⟩
  have hrows : ∀ (rows : List Listed) (after : C × FileBackend), continues after →
      continues ((deliverRows callback rows).run after).2 := by
    intro rows
    induction rows with
    | nil => exact fun _ hafter ↦ hafter
    | cons row rest ih =>
      rintro ⟨c, backend⟩ ⟨more, hmore⟩
      refine Action.of_bind continues ?_ fun _ after hafter ↦ ih after hafter
      obtain ⟨later, hlater⟩ := hcallback row c backend _ hmore
      exact ⟨more ++ later, by rwa [← List.append_assoc]⟩
  rw [Operation.run_eq_form]
  refine Action.of_bind continues hcall fun rows after hafter ↦ ?_
  exact Action.of_bind continues (hrows _ after hafter) fun _ _ hdone ↦ hdone

/-- What operations answer one after another. -/
def answered (site : FileSite) : List Operation → FileBackend → Calls
  | [], _ => []
  | op :: rest, backend =>
    let ran := (op.run site.driver (Operation.passive Operation.ignore)).run ((), backend)
    (op, ran.1) :: site.answered rest ran.2.2

theorem Records.afterAll (h : site.Records start calls (.opened backend)) (ops : List Operation) :
    site.Records start (calls ++ site.answered ops backend)
      (.opened (site.afterAll ops backend)) := by
  induction ops generalizing calls backend with
  | nil =>
    rw [answered, List.append_nil]
    exact h
  | cons op rest ih =>
    have hrest := ih (h.performed op Operation.ignore ())
    rwa [List.append_assoc] at hrest

/-- What is noted in the store of a file is what the calls have recorded. -/
theorem Records.exists_noted (h : site.Records start calls state) (hs : s.Reachable)
    (hstart : start.Keeps site s) (hnoted : s.Noted []) :
    ∃ s', s'.Reachable ∧ state.Keeps site s' ∧ s'.Noted calls := by
  induction h with
  | refl => exact ⟨s, hs, hstart, hnoted⟩
  | idle _ hidle ih =>
    obtain ⟨s', hs', hkeeps, hnoted'⟩ := ih
    exact ⟨s', hs', hidle.keeps hkeeps, hnoted'⟩
  | @performed calls backend _ op C callback c ih =>
    obtain ⟨t, ht, hsettled, hnoted'⟩ := ih
    cases hnote : op.note? with
    | none =>
      rw [Operation.run_passive_backend]
      obtain ⟨t', hsettled', rfl | ⟨request, now, rows, hrequest, hreply⟩⟩ :=
        Backend.settled_call op.form.request hsettled
      · exact ⟨t', ht, hsettled', hnoted'.skip (.inr hnote)⟩
      · have hrun := Operation.run_of_reply hrequest hreply
        exact ⟨t', ht.step (.request now op _ request hrequest hrun), hsettled',
          hnoted'.of_run ht hrequest hrun (.inr hnote)⟩
    | some note =>
      obtain ⟨t', answer, after, hran, hsettled', ⟨⟨err, rfl⟩, rfl⟩ |
        ⟨rfl, request, rows, hrequest, hrun⟩⟩ := call_of_note? hnote hsettled callback c
      · rw [hran]
        exact ⟨t', ht, hsettled', hnoted'.skip (.inl rfl)⟩
      · rw [hran]
        exact ⟨t', ht.step (.request _ op _ request hrequest hrun), hsettled',
          hnoted'.of_run ht hrequest hrun (.inl rfl)⟩

/-! ### Notes that are listed -/

end FileSite

/-- The row shows the note, each text cut to so many bytes. -/
def Listed.Shows (limit : Nat) (note : Nat × List String) (row : Listed) : Prop :=
  ∃ texts, row.note? = some (note.1, texts) ∧ List.Forall₂ (Text.IsCut limit) note.2 texts

theorem Listed.shows_of_note?_eq {limit : Nat} {note : Nat × List String} {row : Listed}
    (h : row.note? = some (truncatedNote limit note)) : row.Shows limit note := by
  refine ⟨_, h, List.forall₂_map_right_iff.mpr ?_⟩
  exact List.forall₂_same.mpr fun text _ ↦ Text.isCut_truncate limit text

namespace FileSite

variable {site : FileSite} {s : Store} {backend : FileBackend} {op : Operation} {calls : Calls}

/-- Along every history of every file, whatever is listed of the notes of an owner, in whatever
later state: if the owner is there, these are the notes that the answered calls have added for it to
this table, in their order, as far as they begin with the texts asked for; if it is not, there are
none. -/
theorem notes_listed {w : Faulty World} (hfresh : site.Fresh w)
    (hrecords : site.Records (.closed w) calls (.opened backend))
    (hkeeps : site.Keeps backend.connection.world.world s) {notes : Notes} {owner : Nat}
    {lead : List String} (hsought : op.sought? = some (notes, owner, lead))
    (hvalid : ∀ operand ∈ op.operands, ¬ operand.Refused) :
    let kept := if owner ∈ notes.owners.ids s then
      (notes.recorded calls).filter fun note ↦ note.1 = owner ∧ lead <+: note.2 else []
    site.Reports backend op fun answer listed ↦
      answer = .afterRows kept ∧
        List.Forall₂ (fun note row ↦ row.Shows backend.reader.limit note) kept listed := by
  intro kept
  obtain ⟨s', hs', hsettled, hnoted⟩ :=
    hrecords.exists_noted .empty hfresh.keeps Store.noted_empty
  obtain rfl : s' = s := (Connection.Settled.keeps hsettled).unique hkeeps
  have hkept : ((notes.recorded calls).filter fun note ↦ note.1 ∈ notes.owners.ids s').filter
      (leadsNote owner lead) = kept := by
    rw [List.filter_filter]
    by_cases hthere : owner ∈ notes.owners.ids s'
    · refine (List.filter_congr fun note _ ↦ ?_).trans (if_pos hthere).symm
      rw [leadsNote, Bool.eq_iff_iff]
      simp only [Bool.and_eq_true, beq_iff_eq, List.isPrefixOf_iff_prefix, decide_eq_true_iff]
      exact ⟨And.left, fun h ↦ ⟨h, h.1 ▸ hthere⟩⟩
    · refine Eq.trans ?_ (if_neg hthere).symm
      refine List.filter_eq_nil_iff.mpr fun note _ hpasses ↦ hthere ?_
      simp only [leadsNote, Bool.and_eq_true, beq_iff_eq, decide_eq_true_iff] at hpasses
      exact hpasses.1.1 ▸ hpasses.2
  obtain ⟨request, hrequest⟩ := Operation.exists_request backend.reader hvalid
  obtain ⟨result, hyields, hanswer, hlisted⟩ := Operation.yieldsNotes_of_sought hsought hrequest
    (hnoted.rows notes) backend.connection.world.world.now
  rw [hkept] at hanswer hlisted
  refine reports_of_yields hsettled hyields hanswer ⟨rfl, ?_⟩
  have hsame : List.Forall₂ (· = ·) (kept.map fun note ↦
      some (truncatedNote backend.reader.limit note)) ((op.form.listed result).map Listed.note?) :=
    List.forall₂_eq_eq_eq ▸ hlisted.symm
  rw [List.forall₂_map_left_iff, List.forall₂_map_right_iff] at hsame
  exact hsame.imp fun note row hrow ↦ Listed.shows_of_note?_eq hrow.symm

/-- The same property twice on an object and once on a relation of the same id, another one, and one
for an object that is not there. -/
def noting : List Operation :=
  [.createSession ⟨"00:00:00:00:00:00", "user", 1, "program", "program --flag"⟩,
    .createObject "" "first" .entity 1, .createBundle "bundle" "" 1, .addRelation 1 2 .used,
    .addObjectProperty 1 "space" "key" "value", .addRelationProperty 1 "space" "key" "value",
    .addObjectProperty 3 "space" "key" "value", .addObjectProperty 1 "other" "key" "value",
    .addObjectProperty 1 "space" "key" "value"]

/-- The property that is there twice is listed twice, and the one on the relation is not, nor are
those of the other space. -/
theorem noted_twice :
    ∃ listed after,
      ((Operation.objectProperties 1 (.space "space")).run named.driver Backend.keepRow).run
          ([], named.afterAll noting first) = (.ok (.listed .ok), (listed, after)) ∧
      List.Forall₂ (fun note row ↦ row.Shows (named.afterAll noting first).reader.limit note)
        [(1, ["space", "key", "value"]), (1, ["space", "key", "value"])] listed := by
  have hrecords : named.Records (.closed untouched) ([] ++ named.answered noting first)
      (.opened (named.afterAll noting first)) :=
    (Records.refl.idle (.started {} ⟨0, none⟩ rfl)).afterAll noting
  have hreports := notes_listed fresh_untouched hrecords ⟨⟨rfl, by decide⟩, rfl⟩
    (show (Operation.objectProperties 1 (.space "space")).sought? = some _ from rfl) (by decide)
  obtain ⟨answer, listed, after, hrun⟩ := hreports.answers (.inl rfl) fun _ ↦ rfl
  obtain ⟨hanswer, hlisted⟩ := hreports.told answer listed after hrun
  refine ⟨listed, after, ?_, ?_⟩
  · rw [hrun, hanswer]
    refine congrArg (fun answer ↦ (Except.ok answer, (listed, after))) ?_
    decide +kernel
  · convert hlisted using 1
    decide +kernel

end FileSite

end Provenance
