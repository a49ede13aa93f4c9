import Provenance.Proofs.CutTexts
import Provenance.Proofs.KeptRows

/-!
What is recorded is read back. A row that an operation has made stays in the store as it was made,
whatever steps are taken, until the deletion of a bundle removes it (`Spares.keeps_item`). Whatever
is answered about the row until then is what it was made of: its texts are cut to what the options
allow, its time is the instant that the zone has for the clock at which it was made, and everything
else is the same (`records_read_back`).
-/

set_option autoImplicit false
set_option relaxedAutoImplicit false

namespace Provenance

open Relational (Statement World)

/-! ### What describes a row -/

/-- A text that was an argument is shown cut to a number of bytes, and whole if no argument may be
longer. -/
def Text.ShownAs (limit : Nat) (text shown : String) : Prop :=
  Text.IsCut limit text shown ∧ (4095 ≤ limit → shown = text)

theorem Text.shownAs_truncate {text : String} (h : text.utf8ByteSize ≤ 4095) (limit : Nat) :
    Text.ShownAs limit text (Text.truncate limit text) := by
  have hcut := Text.isCut_truncate limit text
  exact ⟨hcut, fun hlimit ↦ hcut.eq_of_le (Nat.le_trans h hlimit)⟩

open Text (ShownAs shownAs_truncate)

/-- The session is described as it was recorded, by an instant for each zone. -/
structure SessionInfo.Describes (info : SessionInfo) (reader : Reader) (id : Nat)
    (session : SessionDescriptor) (epoch : Zone → Int) : Prop where
  id_eq : info.id = id
  macAddress : ShownAs reader.limit session.macAddress info.macAddress
  user : ShownAs reader.limit session.user info.user
  pid_eq : info.pid = session.pid
  program : ShownAs reader.limit session.program info.program
  commandLine : ShownAs reader.limit session.commandLine info.commandLine
  startTime_eq : info.startTime = epoch reader.zone

/-- The object is described as it was made. -/
structure ObjectInfo.Describes (info : ObjectInfo) (reader : Reader) (id : Nat)
    (space name : String) (kind : ObjectKind) (session : Nat) (epoch : Zone → Int) : Prop where
  id_eq : info.id = id
  session_eq : info.session = session
  created_eq : info.created = epoch reader.zone
  space : ShownAs reader.limit space info.space
  name : ShownAs reader.limit name info.name
  kind_eq : info.kind = kind

/-- The bundle is described as it was made. -/
structure BundleInfo.Describes (info : BundleInfo) (reader : Reader) (id : Nat)
    (space name : String) (session : Nat) (epoch : Zone → Int) : Prop where
  id_eq : info.id = id
  session_eq : info.session = session
  created_eq : info.created = epoch reader.zone
  space : ShownAs reader.limit space info.space
  name : ShownAs reader.limit name info.name

namespace FileSite

variable {site : FileSite} {s : Store} {backend : FileBackend} {op : Operation} {id : Nat}
  {epoch : Zone → Int}

/-! ### Reports -/

/-- Whatever the operation answers and lists is as told, and it does answer if nothing is planned to
fail and the backend is connected or may connect. -/
structure Reports (site : FileSite) (backend : FileBackend) (op : Operation)
    (told : Answer → List Listed → Prop) : Prop where
  told : ∀ answer listed after,
    (op.run site.driver Backend.keepRow).run ([], backend) = (.ok answer, (listed, after)) →
      told answer listed
  answers : backend.connection.isConnected = true ∨ backend.options.maxRetries ≠ 0 →
    (∀ point, backend.connection.world.plan.queues point = []) →
      ∃ answer listed after,
        (op.run site.driver Backend.keepRow).run ([], backend) = (.ok answer, (listed, after))

/-- An operation reports what its request yields. -/
theorem reports_of_yields (h : backend.connection.Settled site s) {result : op.form.Rows}
    {answer : Answer} {told : Answer → List Listed → Prop}
    (hyields : s.Yields backend.connection.world.world.now (op.form.request backend.reader)
      (.ok result) s)
    (hanswer : op.form.answer result = .ok answer) (htold : told answer (op.form.listed result)) :
    site.Reports backend op told := by
  obtain ⟨request, rows, hmade, hreply, hread⟩ := hyields
  constructor
  · intro answer' listed after hrun
    rw [Operation.run_keepRow] at hrun
    obtain ⟨s', -, houtcome⟩ := Backend.call_cases_now op.form.request h
    rcases hcall : (Backend.call site.driver op.form.request).run backend with ⟨err | found, after'⟩
    · rw [hcall] at hrun
      cases hrun
    · rw [hcall] at hrun houtcome
      have hfound : found = result := by
        rcases houtcome with ⟨⟨err, herr⟩, -⟩ | ⟨valid, rows', hvalid, hreply', hresult⟩
        · cases herr
        · cases hmade.symm.trans hvalid
          cases hreply.symm.trans hreply'
          exact Except.ok.inj ((hresult found rfl).symm.trans hread)
      rw [hfound] at hrun
      obtain ⟨hsame, hlisted⟩ := Prod.mk.inj hrun
      rw [hanswer] at hsame
      cases hsame
      cases hlisted
      exact htold
  · intro hopens hqueues
    obtain ⟨c', hperform, -⟩ :=
      Connection.perform_of_nothing_planned h hopens request 0 hqueues
    rw [Store.served_of_ok hreply, hread] at hperform
    refine ⟨answer, op.form.listed result, { backend with connection := c' }, ?_⟩
    rw [Operation.run_keepRow, Backend.run_call_of_ok hmade, hperform]
    exact congrArg (fun answered ↦ (answered, _)) hanswer

/-- What is told of an object: of a bundle, also as a bundle. -/
structure TellsObject (site : FileSite) (backend : FileBackend) (id : Nat) (space name : String)
    (kind : ObjectKind) (session : Nat) (epoch : Zone → Int) : Prop where
  object : site.Reports backend (.objectInfo id) fun answer _ ↦
    ∃ info, answer = .object info ∧
      info.Describes backend.reader id space name kind session epoch
  bundle : kind = .bundle → site.Reports backend (.bundleInfo id) fun answer _ ↦
    ∃ info, answer = .bundle info ∧ info.Describes backend.reader id space name session epoch

/-- What is told of a relation: if it is one of the vocabulary, it is listed at its two ends, and it
is listed for the bundles that record it, but nowhere else and never with other fields. -/
structure TellsRelation (site : FileSite) (backend : FileBackend) (s : Store) (id : Nat)
    (source destination : Nat) (kind : RelationKind) : Prop where
  ends : ∀ x ∈ [source, destination], 0 < x ∧ x ≤ Limit.id
  leaving : ∀ x, 0 < x → x ≤ Limit.id →
    site.Reports backend (.objectRelations x .ancestors) fun _ listed ↦
      ∀ info, info.id = id → (.relation info ∈ listed ↔
        x = source ∧ kind.isBookkeeping = false ∧ info = ⟨id, source, destination, kind⟩)
  entering : ∀ x, 0 < x → x ≤ Limit.id →
    site.Reports backend (.objectRelations x .descendants) fun _ listed ↦
      ∀ info, info.id = id → (.relation info ∈ listed ↔
        x = destination ∧ kind.isBookkeeping = false ∧ info = ⟨id, destination, source, kind⟩)
  contained : ∀ bundle, 0 < bundle → bundle ≤ Limit.id →
    site.Reports backend (.bundleRelations bundle) fun _ listed ↦
      ∀ info, info.id = id → (.relation info ∈ listed ↔
        id ∈ s.memberRelations bundle ∧ info = ⟨id, source, destination, kind⟩)

/-- What is told, on a store, of the row of this id that the operation has made. -/
def Tells (site : FileSite) (backend : FileBackend) (s : Store) (id : Nat) (epoch : Zone → Int) :
    Operation → Prop
  | .createSession session => site.Reports backend (.sessionInfo id) fun answer _ ↦
      ∃ info, answer = .session info ∧ info.Describes backend.reader id session epoch
  | .createObject space name kind session =>
    site.TellsObject backend id space name kind session epoch
  | .createBundle name space session =>
    site.TellsObject backend id space name .bundle session epoch
  | .addRelation source destination kind =>
    site.TellsRelation backend s id source destination kind
  | _ => False

/-! ### What is told of rows -/

section Rows

variable {space name : String} {now : Value} {session source destination : Nat}

theorem tellsSession_of_mem {descriptor : SessionDescriptor}
    (h : backend.connection.Settled site s) (hs : s.Reachable)
    (hrow : ⟨id, .text descriptor.macAddress, .text descriptor.user, .int descriptor.pid,
      .text descriptor.program, .text descriptor.commandLine, now⟩ ∈ s.sessions)
    (hnow : now.IsClock) (hepoch : ∀ reader, now.toEpoch reader = .ok (epoch reader.zone))
    (hle : id ≤ Limit.id)
    (hfits : ∀ operand ∈ (Operation.createSession descriptor).operands, ¬ operand.Refused) :
    site.Tells backend s id epoch (.createSession descriptor) := by
  have hshown : ∀ {what text limit},
      .text what text limit ∈ (Operation.createSession descriptor).operands → limit ≤ 4095 →
        ShownAs backend.reader.limit text (Text.truncate backend.reader.limit text) := by
    intro what text limit hoperand hlimit
    have hsize : text.utf8ByteSize ≤ limit := Nat.le_of_not_lt (hfits _ hoperand)
    exact shownAs_truncate (Nat.le_trans hsize hlimit) _
  refine reports_of_yields h
    (Store.yields_sessionInfo (hs.counted .sessions) hrow hle hnow (hepoch backend.reader)) rfl
    ⟨_, rfl, rfl, ?_, ?_, rfl, ?_, ?_, rfl⟩
  · exact hshown (.head _) (by decide)
  · exact hshown (.tail _ (.head _)) (by decide)
  · exact hshown (.tail _ (.tail _ (.head _))) (by decide)
  · exact hshown (.tail _ (.tail _ (.tail _ (.head _)))) (by decide)

theorem tellsObject_of_mem {kind : ObjectKind} (h : backend.connection.Settled site s)
    (hs : s.Reachable)
    (ho : ⟨id, now, .text space, .text name, .int kind.code, .int session⟩ ∈ s.objects)
    (hnow : now.IsClock) (hepoch : ∀ reader, now.toEpoch reader = .ok (epoch reader.zone))
    (hle : id ≤ Limit.id) (hspace : space.utf8ByteSize ≤ 255) (hname : name.utf8ByteSize ≤ 255) :
    site.TellsObject backend id space name kind session epoch := by
  have hspace' := shownAs_truncate (Nat.le_trans hspace (by decide)) backend.reader.limit
  have hname' := shownAs_truncate (Nat.le_trans hname (by decide)) backend.reader.limit
  have hcounted := hs.counted .objects
  constructor
  · exact reports_of_yields h (Store.yields_objectInfo hcounted ho hle hnow (hepoch _) rfl rfl rfl
      rfl) rfl ⟨_, rfl, rfl, rfl, rfl, hspace', hname', rfl⟩
  · rintro rfl
    exact reports_of_yields h (Store.yields_bundleInfo hcounted ho rfl hle hnow (hepoch _) rfl rfl
      rfl) rfl ⟨_, rfl, rfl, rfl, rfl, hspace', hname'⟩

/-- The relations that are listed at an end of this one are listed with their fields. -/
theorem reports_objectRelations {kind : RelationKind} (h : backend.connection.Settled site s)
    (hs : s.Reachable) {r : RelationRow} (hr : r ∈ s.relations) (hkind : r.kind = .int kind.code)
    (direction : Direction) {x : Nat} (hpos : 0 < x) (hle : x ≤ Limit.id) :
    site.Reports backend (.objectRelations x direction) fun _ listed ↦
      ∀ info, info.id = r.id → (.relation info ∈ listed ↔ x = direction.near r ∧
        kind.isBookkeeping = false ∧ info = ⟨r.id, direction.near r, direction.far r, kind⟩) := by
  obtain ⟨infos, hyields, hcolumns⟩ := Store.yields_objectRelations
    backend.connection.world.world.now hs.knownKinds hpos hle direction
  refine reports_of_yields h hyields rfl fun info hid ↦ ?_
  refine (Listed.relation_mem_iff hcolumns).trans ?_
  have hplain := Store.isPlain_eq hkind
  constructor
  · rintro ⟨row, hrow, hsame⟩
    obtain ⟨hrow, hends⟩ := List.mem_filter.mp hrow
    have hrowId : row.id = r.id := (congrArg Prod.fst hsame).trans hid
    obtain rfl : row = r := hs.eq_of_relation_id hrow hr hrowId
    rw [hplain, Bool.and_eq_true, beq_iff_eq, Bool.not_eq_true'] at hends
    refine ⟨hends.1.symm, hends.2, RelationInfo.columns_injective ?_⟩
    rw [← hsame, hkind, hends.1]
    rfl
  · rintro ⟨rfl, hbookkeeping, rfl⟩
    refine ⟨r, List.mem_filter.mpr ⟨hr, ?_⟩, ?_⟩
    · rw [hplain, hbookkeeping, beq_self_eq_true]
      rfl
    · rw [hkind]
      rfl

/-- The relations that are listed for a bundle are listed with their fields. -/
theorem reports_bundleRelations {kind : RelationKind} (h : backend.connection.Settled site s)
    (hs : s.Reachable) {r : RelationRow} (hr : r ∈ s.relations) (hkind : r.kind = .int kind.code)
    {bundle : Nat} (hpos : 0 < bundle) (hle : bundle ≤ Limit.id) :
    site.Reports backend (.bundleRelations bundle) fun _ listed ↦
      ∀ info, info.id = r.id → (.relation info ∈ listed ↔
        r.id ∈ s.memberRelations bundle ∧ info = ⟨r.id, r.source, r.destination, kind⟩) := by
  obtain ⟨infos, hyields, hcolumns⟩ := Store.yields_bundleRelations
    backend.connection.world.world.now hs.knownKinds hpos hle
  refine reports_of_yields h hyields rfl fun info hid ↦ ?_
  refine (Listed.relation_mem_iff hcolumns).trans ?_
  constructor
  · rintro ⟨row, hrow, hsame⟩
    obtain ⟨hrow, hmember⟩ := Store.mem_membersOf.mp hrow
    have hrowId : row.id = r.id := (congrArg Prod.fst hsame).trans hid
    obtain rfl : row = r := hs.eq_of_relation_id hrow hr hrowId
    refine ⟨hmember, RelationInfo.columns_injective ?_⟩
    rw [← hsame, hkind]
    rfl
  · rintro ⟨hmember, rfl⟩
    refine ⟨r, Store.mem_membersOf.mpr ⟨hr, hmember⟩, ?_⟩
    rw [hkind]
    rfl

end Rows

/-! ### Rows that are not deleted -/

/-- Steps lead from one state to another, and none of them deletes a bundle and with it the row of
this id. -/
inductive Spares (site : FileSite) (table : Store.Table) (id : Nat) (start : State) : State → Prop
  | refl : Spares site table id start start
  | step {state state' : State} (h : Spares site table id start state)
      (hstep : site.Step state state')
      (hspared : ∀ bundle t, site.Performs (.deleteBundle bundle) state state' →
        state'.Keeps site t → id ∈ table.ids t) :
      Spares site table id start state'

open Store (Item)

/-- A row that is not deleted stays as it is. -/
theorem Spares.keeps_item {item : Item} {start state : State}
    (h : site.Spares item.table item.id start state) (hstart : start.Keeps site s)
    (hs : s.Reachable) (hin : item.In s) :
    ∃ t, state.Keeps site t ∧ t.Reachable ∧ item.In t := by
  induction h with
  | refl => exact ⟨s, hstart, hs, hin⟩
  | step h hstep hspared ih =>
    obtain ⟨t, ht, htreach, htin⟩ := ih
    obtain ⟨t', ht', hsame | ⟨op, hperforms, now, reader, request, rows, hrequest, hrun⟩⟩ :=
      hstep.keeps_or_performs ht
    · rw [hsame] at ht'
      exact ⟨t, ht', htreach, htin⟩
    · refine ⟨t', ht', htreach.step (.request now op reader request hrequest hrun), ?_⟩
      rcases (Store.Change.of_run hrun).in_or_gone htreach htin with hin' | ⟨hquery, hgone⟩
      · exact hin'
      · rw [op.ensures_query reader request hrequest] at hquery
        obtain ⟨bundle, rfl⟩ := Operation.eq_deleteBundle_of_query hquery
        exact absurd (hspared bundle t' hperforms ht') hgone

/-! ### What is made is told -/

/-- What an operation has made is told of it, as long as the row is in the store. -/
theorem tells_of_in {item : Item} {now : Value} (h : backend.connection.Settled site s)
    (hs : s.Reachable) (hmade : op.made now id = some item) (hin : item.In s) (hnow : now.IsClock)
    (hepoch : ∀ reader, now.toEpoch reader = .ok (epoch reader.zone)) (hle : id ≤ Limit.id)
    (hfits : ∀ operand ∈ op.operands, ¬ operand.Refused) : site.Tells backend s id epoch op := by
  cases op with
  | createSession descriptor =>
    cases hmade
    exact tellsSession_of_mem h hs hin hnow hepoch hle hfits
  | createObject space name kind session =>
    cases hmade
    exact tellsObject_of_mem h hs hin hnow hepoch hle (Nat.le_of_not_lt (hfits _ (.head _)))
      (Nat.le_of_not_lt (hfits _ (.tail _ (.head _))))
  | createBundle name space session =>
    cases hmade
    exact tellsObject_of_mem h hs hin hnow hepoch hle (Nat.le_of_not_lt (hfits _ (.head _)))
      (Nat.le_of_not_lt (hfits _ (.tail _ (.head _))))
  | addRelation source destination kind =>
    cases hmade
    refine ⟨?_, fun x ↦ ?_, fun x ↦ ?_, fun bundle ↦ ?_⟩
    · exact List.forall_mem_cons.mpr ⟨Operand.bounds_of_not_refused (hfits _ (.head _)),
        List.forall_mem_singleton.mpr (Operand.bounds_of_not_refused (hfits _ (.tail _ (.head _))))⟩
    · exact reports_objectRelations h hs hin rfl .ancestors
    · exact reports_objectRelations h hs hin rfl .descendants
    · exact reports_bundleRelations h hs hin rfl
  | _ => cases hmade

/-- Of every row that an operation makes in whatever file: there is an instant for each zone, such
that in every later state, if no deletion of a bundle has removed the row, whatever else has
happened, exactly what the row was made of is told of it, with this instant for its time. The id of
the row is one that a column can hold. -/
theorem records_read_back (hreach : site.Reachable (.opened backend))
    (hclock : backend.connection.world.world.now.IsClock) {table : Store.Table}
    (hfills : op.fills = some table) {C : Type} (callback : Listed → Action C Unit) (c : C)
    {after : FileBackend}
    (hafter : ((op.run site.driver (Operation.passive callback)).run (c, backend)).2.2 = after)
    {s s' : Store} (hs : site.Keeps backend.connection.world.world s)
    (hs' : site.Keeps after.connection.world.world s') (hid : id ∈ table.added s s')
    (hle : id ≤ Limit.id) :
    ∃ epoch : Zone → Int,
      (∀ reader, backend.connection.world.world.now.toEpoch reader = .ok (epoch reader.zone)) ∧
      ∀ present t, site.Spares table id (.opened after) (.opened present) →
        site.Keeps present.connection.world.world t → site.Tells present t id epoch op := by
  obtain ⟨u, hureach, hsettled⟩ := hreach.exists_store
  obtain rfl : u = s := (Connection.Settled.keeps hsettled).unique hs
  obtain ⟨u', hsettled', houtcome⟩ := Backend.call_cases_now op.form.request hsettled
  rw [← Operation.run_passive_backend op site.driver callback c, hafter] at hsettled'
  obtain rfl : u' = s' := hsettled'.keeps.unique hs'
  rcases houtcome with ⟨-, rfl⟩ | ⟨request, rows, hrequest, hreply, -⟩
  · -- Without a request to the store there is no new row.
    obtain ⟨hold, hnew⟩ := List.mem_filter.mp hid
    exact absurd hold (of_decide_eq_true hnew)
  have hrun := Operation.run_of_reply hrequest hreply
  obtain ⟨item, hmade, hin⟩ := Operation.in_of_run hfills hrequest hclock hrun hid
  obtain ⟨rfl, htable⟩ := Operation.of_made hmade
  obtain rfl : item.table = table := Option.some.inj (htable.symm.trans hfills)
  have hreach' : u'.Reachable := hureach.step (.request _ op _ request hrequest hrun)
  obtain ⟨epoch, hepoch⟩ := hclock.exists_epochs
  refine ⟨epoch, hepoch, fun present t hspares ht ↦ ?_⟩
  obtain ⟨t', hpresent, htreach, htin⟩ := hspares.keeps_item hsettled' hreach' hin
  obtain rfl : t' = t := (Connection.Settled.keeps hpresent).unique ht
  exact tells_of_in hpresent htreach hmade htin hclock hepoch hle
    (Operation.not_refused_of_request hrequest)

/-- An object whose name ends in a zero byte and is not all of it ASCII. -/
def unusual : Operation := .createObject "" "n\u00e4me\x00" .entity 1

/-- The file of that object alone. -/
def withUnusual : FileBackend :=
  named.afterAll
    [.createSession ⟨"00:00:00:00:00:00", "user", 1, "program", "program --flag"⟩, unusual] first

/-- The object outlives a bundle and is read back as it was made. -/
theorem unusual_read_back :
    ∃ info listed after,
      ((Operation.objectInfo 1).run named.driver Backend.keepRow).run
          ([], named.afterAll [.createBundle "bundle" "" 1, .deleteBundle 2] withUnusual) =
        (.ok (.object info), (listed, after)) ∧
      info.space = "" ∧ info.name = "n\u00e4me\x00" ∧ info.kind = .entity ∧ info.session = 1 := by
  obtain ⟨epoch, -, htold⟩ :=
    records_read_back (reachable_first.afterAll [.createSession
      ⟨"00:00:00:00:00:00", "user", 1, "program", "program --flag"⟩])
      ⟨⟨2026, 1, 1, 0, 0, 0, 0⟩, by decide, by decide, by decide, rfl⟩
      (rfl : unusual.fills = some .objects) Operation.ignore () (show _ = withUnusual from rfl)
      ⟨⟨rfl, by decide⟩, rfl⟩ ⟨⟨rfl, by decide⟩, rfl⟩
      (show 1 ∈ Store.Table.objects.added _ _ by decide +kernel) (by decide)
  have hbundle : named.Spares .objects 1 (.opened withUnusual)
      (.opened (named.afterAll [.createBundle "bundle" "" 1] withUnusual)) := by
    refine .step .refl (.performed withUnusual _ Operation.ignore ()) fun _ t _ ht ↦ ?_
    rw [(Connection.Settled.keeps ht).unique ⟨⟨rfl, by decide⟩, rfl⟩]
    decide +kernel
  have hdeleted : named.Spares .objects 1 (.opened withUnusual)
      (.opened (named.afterAll [.createBundle "bundle" "" 1, .deleteBundle 2] withUnusual)) := by
    refine .step hbundle (.performed _ (.deleteBundle 2) Operation.ignore ()) fun _ t _ ht ↦ ?_
    rw [(Connection.Settled.keeps ht).unique ⟨⟨rfl, by decide⟩, rfl⟩]
    decide +kernel
  have hobject := (htold _ _ hdeleted ⟨⟨rfl, by decide⟩, rfl⟩).object
  obtain ⟨answer, listed, after, hrun⟩ := hobject.answers (.inl rfl) fun _ ↦ rfl
  obtain ⟨info, rfl, hinfo⟩ := hobject.told answer listed after hrun
  exact ⟨info, listed, after, hrun, hinfo.space.2 (by decide), hinfo.name.2 (by decide),
    hinfo.kind_eq, hinfo.session_eq⟩

end FileSite

end Provenance
