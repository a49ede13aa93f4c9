import Provenance.Proofs.WorkerRun
import Provenance.Simulation.Run

/-!
The check after a run. A check passes (`Check.Passes`) if it succeeds wherever nothing is planned to
fail, and checks that pass make up one that passes. On a ledger that follows the store every part of
the check passes, with pools that are full and no reconnection too many; so the whole check does
(`Check.passes_run`).
-/

set_option autoImplicit false
set_option relaxedAutoImplicit false

namespace Provenance

open Relational (Statement World)

namespace Simulation

open Ascending

namespace Check

variable {α β : Type} {place : Workplace} {asked : Nat} {s : Store} {backend : FileBackend}
  {holds : α → Prop} {holds' : β → Prop} {ledger : Ledger} {id : Nat}

/-! ### Checks that pass -/

/-- The check succeeds wherever nothing is planned to fail, with a result of which this holds, and
leaves the store as it is. -/
def Passes (place : Workplace) (asked : Nat) (s : Store) (check : Checking FileBackend α)
    (holds : α → Prop) : Prop :=
  ∀ backend, backend.Ready place asked s → backend.IsQuiet →
    ∃ a backend', check backend = (.ok a, backend') ∧ holds a ∧
      backend'.Ready place asked s ∧ backend'.IsQuiet

theorem passes_pure {a : α} (h : holds a) : Passes place asked s (pure a) holds :=
  fun backend hready hquiet ↦ ⟨a, backend, rfl, h, hready, hquiet⟩

theorem Passes.bind {check : Checking FileBackend α} {next : α → Checking FileBackend β}
    (h : Passes place asked s check holds)
    (hnext : ∀ a, holds a → Passes place asked s (next a) holds') :
    Passes place asked s (check >>= next) holds' := by
  intro backend hready hquiet
  obtain ⟨a, between, hcheck, ha, hready', hquiet'⟩ := h backend hready hquiet
  rw [Checking.bind_eq, hcheck]
  exact hnext a ha between hready' hquiet'

theorem passes_forM {items : List β} {check : β → Checking FileBackend Unit}
    (h : ∀ b ∈ items, Passes place asked s (check b) fun _ ↦ True) :
    Passes place asked s (items.forM check) fun _ ↦ True := by
  induction items with
  | nil => exact passes_pure trivial
  | cons b rest ih =>
    refine Passes.bind (h b List.mem_cons_self) fun _ _ ↦ ?_
    exact ih fun b hb ↦ h b (List.mem_cons_of_mem _ hb)

theorem passes_look {question : FileBackend → Except String α} {a : α}
    (h : ∀ backend, backend.Ready place asked s → question backend = .ok a) (ha : holds a) :
    Passes place asked s (look question) holds := fun backend hready hquiet ↦
  ⟨a, backend, Prod.ext (h backend hready) rfl, ha, hready, hquiet⟩

section Calls

variable {request : Reader → Except Error (Request α)}

/-- A call passes if its request yields such a result. -/
theorem passes_call (describe : Error → String)
    (h : ∀ now reader, reader.limit = place.options.maxStringLength →
      ∃ a, holds a ∧ s.Yields now (request reader) (.ok a) s) :
    Passes place asked s
      (Checking.ofAction describe (Backend.call place.site.driver request)) holds := by
  intro backend hready hquiet
  obtain ⟨a, ha, hyields⟩ := h backend.connection.world.world.now backend.reader
    (congrArg Options.maxStringLength hready.options_eq)
  obtain ⟨backend', hcall, hready', hquiet'⟩ := Backend.call_of_quiet hready hquiet hyields
  refine ⟨a, backend', ?_, ha, hready', hquiet'⟩
  rw [Checking.ofAction_eq, hcall]

/-- What is gone is not found. -/
theorem passes_gone (what : String) (id : Nat) (debug : α → String)
    (h : ∀ now reader, s.Yields now (request reader) (.error .notFound) s) :
    Passes place asked s (gone what id debug (Backend.call place.site.driver request))
      fun _ ↦ True := by
  intro backend hready hquiet
  obtain ⟨backend', hcall, hready', hquiet'⟩ := Backend.call_of_quiet hready hquiet
    (h backend.connection.world.world.now backend.reader)
  refine ⟨(), backend', ?_, trivial, hready', hquiet'⟩
  simp only [Action.run] at hcall
  simp only [gone, hcall]

end Calls

/-! ### Pools and reconnections -/

theorem forM_eq_ok {items : List β} {check : β → Except String Unit}
    (h : ∀ b ∈ items, check b = .ok ()) : items.forM check = .ok () := by
  induction items with
  | nil => rfl
  | cons b rest ih =>
    rw [List.forM, h b List.mem_cons_self]
    exact ih fun b hb ↦ h b (List.mem_cons_of_mem _ hb)

/-- All handles are in their pools, and no other is alive. -/
theorem pools_eq_ok (h : backend.Ready place asked s) :
    pools place.options.poolSize backend = .ok () := by
  obtain ⟨live, hopen⟩ := h.kept.isOpen
  have hfull : ∀ query ∈ Query.all, pool place.options.poolSize backend query = .ok () := by
    intro query _
    rw [pool, hopen.available query, h.poolSize_eq]
    exact if_neg (not_not.mpr rfl)
  have hlive : backend.connection.world.plan.live = Query.all.length * place.options.poolSize :=
    hopen.handles.trans (congrArg (Query.all.length * ·) h.poolSize_eq)
  unfold pools
  rw [forM_eq_ok hfull]
  simp only [hlive, hopen.opened, ne_eq, not_true_eq_false, if_false]
  rfl

/-- No reconnection is made that was not asked for and that no failure explains. -/
theorem reconnects_eq_ok {report : Report} (h : backend.Ready place report.reconnects s) :
    reconnects [report] backend = .ok () := by
  have hbudget := h.reconnects_le
  unfold reconnects
  refine if_neg ?_
  rw [total, List.foldr_cons, List.foldr_nil, Nat.add_zero]
  exact Nat.not_lt.mpr hbudget

/-! ### What the ledger tells -/

section Ledgers

variable (hwithin : s.lastObject ≤ Limit.id) (h : ledger.Tracks [] s)

include hwithin h

/-- What has been deleted is not found, whichever way it is looked for. -/
theorem passes_deleted (hmem : id ∈ ledger.deletedObjects ∨ id ∈ ledger.deletedBundles)
    (op : Operation) (hop : op ∈ Operation.seeking id) (what : String)
    (debug : op.form.Rows → String) :
    Passes place asked s
      (gone what id debug (Backend.call place.site.driver op.form.request)) fun _ ↦ True := by
  obtain ⟨hpos, hle, habsent⟩ := h.gone id hmem
  refine passes_gone _ _ _ fun now reader ↦ ?_
  exact Store.yields_of_absent op hop hpos (Nat.le_trans hle hwithin) habsent reader

variable (hlegible : s.IsLegible place.session)

include hlegible

/-- A recorded object reads back as it was recorded. -/
theorem passes_object {record : ObjectRecord} (hmem : (id, record) ∈ ledger.objects) :
    Passes place asked s (object place.site.driver ledger.space id record) fun _ ↦ True := by
  obtain ⟨row, hrow, rfl, hspace, hname, hkind⟩ := h.exists_row hmem
  obtain ⟨n, hn, hnumber⟩ := h.numbered row.id record hmem
  have hsize : record.name.utf8ByteSize ≤ Limit.name := by
    rw [hnumber]
    exact h.size_objectName hlegible hwithin (Nat.le_of_lt hn)
  have hinfo : Passes place asked s
      (Checking.ofAction (fun err ↦ s!"object {row.id}: {err.message}")
        (Backend.objectInfo place.site.driver row.id))
      fun info ↦ info.space = ledger.space ∧ info.name = record.name ∧ info.kind = record.kind := by
    refine passes_call _ fun now reader hlimit ↦ ?_
    obtain ⟨info, hyields, hfields⟩ := hlegible.yields_objectInfo hwithin hrow hspace hname hkind
      (hlimit ▸ Nat.le_trans h.space place.space_le) (hlimit ▸ Nat.le_trans hsize place.name_le)
    exact ⟨info, hfields, hyields⟩
  refine hinfo.bind fun info hfields ↦ ?_
  rw [if_neg]
  · exact passes_pure trivial
  · simp [hfields]

theorem passes_relation {record : RelationRecord} (hmem : (id, record) ∈ ledger.relations) :
    Passes place asked s (relation place.site.driver id record) fun _ ↦ True := by
  have hfound : Passes place asked s
      (Checking.ofAction (fun err ↦ s!"relation {id}: {err.message}")
        (Backend.lookupRelation place.site.driver record.source record.destination record.kind))
      fun _ ↦ True := by
    refine passes_call _ fun now reader _ ↦ ?_
    obtain ⟨found, hyields⟩ := hlegible.yields_lookupRelation hwithin (h.relations id record hmem)
      rfl (h.hasObject (h.ends id record hmem).2)
    exact ⟨found, trivial, hyields⟩
  exact hfound.bind fun _ _ ↦ passes_pure trivial

/-- A recorded bundle lists the members that are recorded. -/
theorem passes_bundle {members : List Nat} (hmem : (id, members) ∈ ledger.bundles) :
    Passes place asked s (bundle place.site.driver id members) fun _ ↦ True := by
  obtain ⟨row, hrow, rfl, hkind⟩ := h.bundles id members hmem
  have hpresent : s.hasObject row.id = true := Store.hasObject_iff.mpr ⟨row, hrow, rfl⟩
  have hinfo : Passes place asked s
      (Checking.ofAction (fun err ↦ s!"bundle {row.id}: {err.message}")
        (Backend.bundleInfo place.site.driver row.id)) fun _ ↦ True := by
    refine passes_call _ fun now reader _ ↦ ?_
    obtain ⟨info, hyields⟩ := hlegible.yields_bundleInfo hwithin reader hrow hkind
    exact ⟨info, trivial, hyields⟩
  have hlisted : Passes place asked s
      (Checking.ofAction (fun err ↦ s!"bundle {row.id} objects: {err.message}")
        (Backend.collect (Backend.bundleObjects place.site.driver row.id)))
      fun infos ↦ ∀ member, member ∈ infos.map (·.id) ↔ member ∈ s.memberObjects row.id := by
    rw [Backend.collect_bundleObjects]
    refine passes_call _ fun now reader _ ↦ ?_
    obtain ⟨infos, hyields, hids⟩ := hlegible.yields_bundleObjects hwithin reader hpresent
    exact ⟨infos, hids, hyields⟩
  refine hinfo.bind fun _ _ ↦ hlisted.bind fun infos hids ↦ ?_
  have hall : members.all (Ascending.ofList (infos.map (·.id))).contains = true := by
    refine List.all_eq_true.mpr fun member hmember ↦ List.contains_iff_mem.mpr ?_
    rw [Ascending.mem_ofList, hids]
    exact (h.members row.id members hmem List.not_mem_nil member).mp hmember
  rw [if_neg]
  · exact passes_pure trivial
  · simp [hall]

/-- Everything in a ledger that follows the store is found in it. -/
theorem passes_ledger :
    Passes place asked s (Check.ledger place.site.driver ledger) fun _ ↦ True := by
  refine Passes.bind (passes_forM fun entry hentry ↦ ?_) fun _ _ ↦
    Passes.bind (passes_forM fun id hid ↦ ?_) fun _ _ ↦
    Passes.bind (passes_forM fun entry hentry ↦ ?_) fun _ _ ↦
    Passes.bind (passes_forM fun entry hentry ↦ ?_) fun _ _ ↦ passes_forM fun id hid ↦ ?_
  · exact passes_object hwithin h hlegible hentry
  · exact passes_deleted hwithin h (.inl hid) (.objectInfo id) (by simp [Operation.seeking]) _ _
  · exact passes_relation hwithin h hlegible hentry
  · exact passes_bundle hwithin h hlegible hentry
  · exact passes_deleted hwithin h (.inr hid) (.bundleInfo id) (by simp [Operation.seeking]) _ _

end Ledgers

/-- The whole check passes on the report of a worker whose ledger follows the store. -/
theorem run_eq_ok {report : Report} (hready : backend.Ready place report.reconnects s)
    (hquiet : backend.IsQuiet) (hwithin : s.lastObject ≤ Limit.id)
    (h : report.ledger.Tracks [] s) :
    ∃ backend', run place.site.driver place.options.poolSize [report] backend =
      (.ok (totals [report]), backend') := by
  have hlegible := hready.legible
  have hpools : Passes place report.reconnects s (look (pools place.options.poolSize))
      fun _ ↦ True := passes_look (fun backend hready ↦ pools_eq_ok hready) trivial
  have hreconnects : Passes place report.reconnects s (look (reconnects [report]))
      fun _ ↦ True := passes_look (fun backend hready ↦ reconnects_eq_ok hready) trivial
  have hledgers : Passes place report.reconnects s
      ([report].forM fun report ↦ Check.ledger place.site.driver report.ledger) fun _ ↦ True := by
    refine passes_forM fun report' hmem ↦ ?_
    obtain rfl := List.mem_singleton.mp hmem
    exact passes_ledger hwithin h hlegible
  have hrun : Passes place report.reconnects s
      (run place.site.driver place.options.poolSize [report]) (· = totals [report]) :=
    hpools.bind fun _ _ ↦ hreconnects.bind fun _ _ ↦ hledgers.bind fun _ _ ↦
      hpools.bind fun _ _ ↦ passes_pure rfl
  obtain ⟨_, backend', hdone, rfl, -⟩ := hrun backend hready hquiet
  exact ⟨backend', hdone⟩

end Check

end Simulation

end Provenance
