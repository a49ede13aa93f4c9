import Provenance.Proofs.LedgerDeletion
import Provenance.Proofs.WorkerCalls

/-!
The operations of a worker. Each of them runs on a ledger that follows the store. It succeeds, and
the ledger follows the store again; or a statement fails, and then the ledger follows the store or,
after an operation on a bundle, can be brought in line by looking at all bundles
(`meets_apply`). What an operation checks of what it reads is never amiss.
-/

set_option autoImplicit false
set_option relaxedAutoImplicit false

namespace Provenance

open Relational (Statement World)

namespace Simulation

open Ascending

variable {σ α β : Type}

/-! ### Random choices -/

namespace Dice

variable {dice : Dice σ} {d : σ} {n : Nat}

/-- A carry does not lead out of the range. -/
theorem below_lt (hn : 0 < n) : (dice.below n d).1 < n := by
  have hword : ∀ w : UInt32, w.toNat + 1 ≤ Word.count32 := fun w ↦ w.toNat_lt
  have hproduct : ∀ w : UInt32, w.toNat * n + n ≤ Word.count32 * n := by
    intro w
    have hle := Nat.mul_le_mul_right n (hword w)
    rwa [Nat.succ_mul] at hle
  unfold below
  dsimp only
  generalize (dice.word d).1 = w
  generalize (dice.word (dice.word d).2).1 = v
  have hw := hproduct w
  have hsplit := Nat.div_add_mod (w.toNat * n) Word.count32
  by_cases hlow : Word.count32 - n < w.toNat * n % Word.count32
  · rw [if_pos hlow]
    dsimp only
    have hv : v.toNat * n / Word.count32 < n := by
      refine Nat.div_lt_of_lt_mul ?_
      have hle := hproduct v
      omega
    by_cases hcarry : Word.count32 ≤ w.toNat * n % Word.count32 + v.toNat * n / Word.count32
    · rw [if_pos hcarry]
      refine Nat.lt_of_mul_lt_mul_left (a := Word.count32) ?_
      rw [Nat.mul_add, Nat.mul_one]
      omega
    · rw [if_neg hcarry, Nat.add_zero]
      exact Nat.div_lt_of_lt_mul (by omega)
  · rw [if_neg hlow]
    exact Nat.div_lt_of_lt_mul (by omega)

theorem mem_of_pick {items : List α} {a : α} (h : (dice.pick items d).1 = some a) :
    a ∈ items := by
  unfold pick at h
  by_cases hempty : items.isEmpty = true
  · rw [if_pos hempty] at h
    cases h
  · rw [if_neg hempty] at h
    exact List.mem_of_getElem? h

end Dice

/-! ### Names -/

theorem size_ofList_le (chars : List Char) :
    (String.ofList chars).utf8ByteSize ≤ 4 * chars.length := by
  induction chars with
  | nil => decide
  | cons c rest ih =>
    have hsize := c.utf8Size_le_four
    rw [String.ofList_cons, String.utf8ByteSize_append, String.utf8ByteSize_singleton,
      List.length_cons]
    omega

/-- A number in the range of ids makes a short name. -/
theorem size_toString_le {n : Nat} (hn : n ≤ Limit.id) : (toString n).utf8ByteSize ≤ 76 := by
  have hdigits : (Nat.toDigits 10 n).length ≤ 19 := by
    refine (Nat.length_toDigits_le_iff (by omega) (by omega)).mpr (Nat.lt_of_le_of_lt hn ?_)
    decide
  have hsize := size_ofList_le (Nat.toDigits 10 n)
  rw [Nat.toString_eq_ofList_toDigits]
  omega

/-- The names of all objects are short. -/
theorem Ledger.Tracks.size_objectName {ledger : Ledger} {stale : List Nat} {s : Store}
    {session n : Nat} (h : ledger.Tracks stale s) (hlegible : s.IsLegible session)
    (hwithin : s.lastObject ≤ Limit.id) (hn : n ≤ ledger.objectCount) :
    s!"obj{n}".utf8ByteSize ≤ Limit.name := by
  have hcount := Nat.le_trans (h.objectCount_le hlegible) hwithin
  have hsize := size_toString_le (Nat.le_trans hn hcount)
  have hlabel : (toString "obj").utf8ByteSize = 3 := by decide
  have hlimit : Limit.name = 255 := rfl
  rw [String.utf8ByteSize_append]
  omega

namespace Worker

open Backend (Ready)

variable {place : Workplace} {asked : Nat} {dice : Dice σ} {config : Config} {s s' : Store}
  {w w' : Worker σ World Statement} {ok : α → Store → Ledger → Prop}
  {failed : Store → Ledger → Prop}

/-! ### Parts of operations -/

theorem run_bind_ledgerOf (next : Ledger → Action (Worker σ World Statement) α) :
    (ledgerOf >>= next).run w = (next w.ledger).run w := rfl

theorem run_bind_note (change : Ledger → Ledger)
    (next : Unit → Action (Worker σ World Statement) α) :
    (note change >>= next).run w = (next ()).run { w with ledger := change w.ledger } := rfl

/-- Whatever is picked is one of the items. -/
theorem meets_bind_pick {items : List β}
    {next : Option β → Action (Worker σ World Statement) α}
    (hnone : ∀ d, Meets place asked ok failed ((next none).run { w with dice := d }))
    (hsome : ∀ b ∈ items, ∀ d,
      Meets place asked ok failed ((next (some b)).run { w with dice := d })) :
    Meets place asked ok failed ((roll (dice.pick items) >>= next).run w) := by
  change Meets place asked ok failed
    ((next (dice.pick items w.dice).1).run { w with dice := (dice.pick items w.dice).2 })
  cases hpick : (dice.pick items w.dice).1 with
  | none => exact hnone _
  | some b => exact hsome b (Dice.mem_of_pick hpick) _

/-- Whatever number is drawn lies in the range. -/
theorem meets_bind_below {n : Nat} (hn : 0 < n)
    {next : Nat → Action (Worker σ World Statement) α}
    (hnext : ∀ i < n, ∀ d, Meets place asked ok failed ((next i).run { w with dice := d })) :
    Meets place asked ok failed ((roll (dice.below n) >>= next).run w) :=
  hnext _ (Dice.below_lt hn) _

/-- The worker is at rest and its ledger follows the store. -/
structure InStep (place : Workplace) (asked : Nat) (s : Store) (w : Worker σ World Statement) :
    Prop where
  ready : w.backend.Ready place asked s
  tracks : w.ledger.Tracks [] s
  within : s.lastObject ≤ Limit.id

/-- The ledger follows the store, which has handed out the id of one object at most. -/
def Follows (s s' : Store) (ledger : Ledger) : Prop :=
  ledger.Tracks [] s' ∧ s'.lastObject ≤ s.lastObject + 1

/-- The ledger follows the store once all its bundles have been looked at. No object is new. -/
def Lags (s s' : Store) (ledger : Ledger) : Prop :=
  (∃ lost, ledger.Reviewing (keys ledger.bundles) s' lost) ∧ s'.lastObject ≤ s.lastObject

namespace InStep

variable (h : InStep place asked s w)

include h

theorem meets_skip (d : σ) :
    Meets place asked (fun _ ↦ Follows s) failed (skip.run { w with dice := d }) := by
  refine .done (s := s) h.ready ?_
  exact ⟨h.tracks, Nat.le_succ _⟩

theorem size_bundleName : s!"bundle{w.ledger.bundleCount}".utf8ByteSize ≤ Limit.name := by
  have hsize := size_toString_le
    (Nat.le_trans (h.tracks.bundleCount_le h.ready.legible) h.within)
  have hlabel : (toString "bundle").utf8ByteSize = 6 := by decide
  have hlimit : Limit.name = 255 := rfl
  rw [String.utf8ByteSize_append]
  omega

theorem follows : Follows s s w.ledger := ⟨h.tracks, Nat.le_succ _⟩

theorem meets_createObject :
    Meets place asked (fun _ ↦ Follows s) (Follows s)
      ((createObject (place.tools dice config)).run w) := by
  unfold createObject
  rw [run_bind_ledgerOf]
  refine meets_bind_below (by decide) fun index hindex d ↦ ?_
  have hplain : [ObjectKind.entity, .activity, .agent].getD index .entity ≠ .bundle := by
    match index with
    | 0 | 1 | 2 => exact ObjectKind.noConfusion
  generalize [ObjectKind.entity, .activity, .agent].getD index .entity = kind at hplain ⊢
  have hnow := h.ready.clock
  have hname := h.tracks.size_objectName h.ready.legible h.within (Nat.le_refl _)
  have hmade := h.tracks.withObject w.backend.connection.world.world.now w.ledger.space _ kind
    place.session (.inr rfl)
  refine meets_bind_call h.ready (Store.yields_createObject h.ready.legible.session hnow
    ⟨place.session_pos, place.session_le⟩ kind h.tracks.space hname)
    (h.ready.legible.withObject hnow _ _ kind) h.follows ⟨hmade, Nat.le_refl _⟩ ?_
  intro w' hready hledger
  rw [run_bind_note]
  refine .done hready ⟨?_, Nat.le_refl _⟩
  rw [hledger]
  exact h.tracks.recordObject h.ready.legible _ hplain

/-- The object that is looked up is found under its own id. -/
theorem meets_lookupObject :
    Meets place asked (fun _ ↦ Follows s) (Follows s)
      ((lookupObject (place.tools dice config)).run w) := by
  unfold lookupObject
  rw [run_bind_ledgerOf]
  refine meets_bind_pick h.meets_skip ?_
  rintro ⟨id, record⟩ hmem d
  obtain ⟨n, hn, hnumber⟩ := h.tracks.numbered id record hmem
  have hname : record.name.utf8ByteSize ≤ Limit.name := by
    rw [hnumber]
    exact h.tracks.size_objectName h.ready.legible h.within (Nat.le_of_lt hn)
  refine meets_bind_call h.ready (Store.yields_lookupObject record.kind h.tracks.space hname
    (h.tracks.latest id record hmem)) h.ready.legible h.follows h.follows ?_
  intro w' hready hledger
  rw [if_neg (not_not.mpr rfl)]
  exact .done hready (hledger.symm ▸ h.follows)

theorem meets_addRelation :
    Meets place asked (fun _ ↦ Follows s) (Follows s)
      ((addRelation (place.tools dice config)).run w) := by
  unfold addRelation
  rw [run_bind_ledgerOf]
  refine meets_bind_pick (fun d ↦ meets_bind_pick h.meets_skip fun _ _ ↦ h.meets_skip)
    fun source hsource d ↦ meets_bind_pick h.meets_skip fun destination hdestination d' ↦ ?_
  replace hsource := Ledger.hasObject_iff.mpr hsource
  replace hdestination := Ledger.hasObject_iff.mpr hdestination
  refine meets_bind_below (by decide) fun index hindex d'' ↦ ?_
  have hkinds : ∀ i < 18, (RelationKind.all.getD i .alternateOf).isBookkeeping = false := by decide
  have hkind := hkinds index hindex
  generalize RelationKind.all.getD index .alternateOf = kind at hkind ⊢
  have hplain : kind ≠ .bundleRelation ∧ kind ≠ .inBundle := by
    constructor
    · rintro rfl
      cases hkind
    · rintro rfl
      cases hkind
  have hlegible := h.ready.legible
  have hfrom := h.tracks.hasObject hsource
  have hto := h.tracks.hasObject hdestination
  have hmade := h.tracks.withRelation source destination fun hmember ↦ absurd hmember hplain.2
  refine meets_bind_call h.ready
    (hlegible.yields_addRelation h.within hplain.1 hfrom hto)
    (hlegible.withRelation hplain.1 hfrom hto) h.follows ⟨hmade, Nat.le_succ _⟩ ?_
  intro w' hready hledger
  rw [run_bind_note]
  refine .done hready ⟨?_, Nat.le_succ _⟩
  rw [hledger]
  exact h.tracks.recordRelation hkind hsource hdestination

theorem meets_addProperty :
    Meets place asked (fun _ ↦ Follows s) (Follows s)
      ((addProperty (place.tools dice config)).run w) := by
  unfold addProperty
  rw [run_bind_ledgerOf]
  refine meets_bind_pick h.meets_skip fun id hid d ↦ ?_
  have hpresent := h.tracks.hasObject (Ledger.hasObject_iff.mpr hid)
  refine meets_bind_below (by decide) fun number hnumber d' ↦ ?_
  have hvalue : s!"v{number}".utf8ByteSize ≤ Limit.value := by
    have hlimit : 1000 ≤ Limit.id := by decide
    have hsize := size_toString_le (Nat.le_trans (Nat.le_of_lt hnumber) hlimit)
    have hlabel : (toString "v").utf8ByteSize = 1 := by decide
    have hvalueLimit : Limit.value = 4095 := rfl
    rw [String.utf8ByteSize_append]
    omega
  have hlegible := h.ready.legible
  have hmade := h.tracks.withProperty
    ⟨id, .text w.ledger.space, .text "tag", .text s!"v{number}"⟩
  refine meets_bind_call h.ready
    (hlegible.yields_addObjectProperty h.within hpresent h.tracks.space (by decide) hvalue)
    (hlegible.withProperty hpresent) h.follows ⟨hmade, Nat.le_succ _⟩ ?_
  intro w' hready hledger
  exact .done hready (hledger.symm ▸ ⟨hmade, Nat.le_succ _⟩)

/-- Every recorded relation from an object is among its ancestors. -/
theorem meets_listAncestors :
    Meets place asked (fun _ ↦ Follows s) (Follows s)
      ((listAncestors (place.tools dice config)).run w) := by
  unfold listAncestors
  rw [run_bind_ledgerOf]
  refine meets_bind_pick h.meets_skip fun id hid d ↦ ?_
  have hpresent := h.tracks.hasObject (Ledger.hasObject_iff.mpr hid)
  have hlegible := h.ready.legible
  obtain ⟨infos, hyields, hlisted⟩ := hlegible.yields_objectRelations h.within hpresent
  have hcollect : Backend.collect (Backend.objectRelations place.site.driver id .ancestors) =
      Backend.call place.site.driver fun _ ↦ Request.objectRelations id .ancestors :=
    Backend.collect_each _ _
  dsimp only
  change Meets place asked _ _ ((onBackend (Backend.collect
    (Backend.objectRelations place.site.driver id .ancestors)) >>= _).run _)
  rw [hcollect]
  refine meets_bind_call h.ready hyields hlegible h.follows h.follows ?_
  intro w' hready hledger
  have hnone : ((w.ledger.relations.filter fun entry ↦ entry.2.source == id).map (·.1)).find?
      (fun relation ↦ !(Ascending.ofList (infos.map (·.id))).contains relation) = none := by
    rw [List.find?_eq_none]
    intro relation hrelation
    obtain ⟨⟨id', record⟩, hentry, rfl⟩ := List.mem_map.mp hrelation
    obtain ⟨hmem, hsource⟩ := List.mem_filter.mp hentry
    have hplain : Store.isPlain ⟨id', record.source, record.destination, .int record.kind.code⟩ =
        true := by
      have hkind := h.tracks.kinds id' record hmem
      generalize record.kind = kind at hkind
      cases kind <;> first
        | rfl
        | cases hkind
    have hseen := hlisted _ (h.tracks.relations id' record hmem) (eq_of_beq hsource) hplain
    rw [List.contains_iff_mem.mpr (Ascending.mem_ofList.mpr hseen)]
    exact Bool.false_ne_true
  rw [hnone]
  exact .done hready (hledger.symm ▸ h.follows)

theorem meets_createBundle :
    Meets place asked (fun _ ↦ Follows s) (Follows s)
      ((createBundle (place.tools dice config)).run w) := by
  unfold createBundle
  rw [run_bind_ledgerOf]
  have hnow := h.ready.clock
  have hmade := h.tracks.withObject w.backend.connection.world.world.now w.ledger.space
    s!"bundle{w.ledger.bundleCount}" .bundle place.session (.inl rfl)
  refine meets_bind_call h.ready (Store.yields_createBundle h.ready.legible.session hnow
    ⟨place.session_pos, place.session_le⟩ h.tracks.space h.size_bundleName)
    (h.ready.legible.withObject hnow _ _ .bundle) h.follows ⟨hmade, Nat.le_refl _⟩ ?_
  intro w' hready hledger
  rw [run_bind_note]
  refine .done hready ⟨?_, Nat.le_refl _⟩
  rw [hledger]
  exact h.tracks.recordBundle h.ready.legible _ _ _

/-- Where nothing has been done the ledger can be brought in line. -/
theorem lags : Lags s s w.ledger :=
  ⟨⟨0, h.tracks.reviewing h.ready.legible (List.nil_subset _)⟩, Nat.le_refl _⟩

theorem meets_addToBundle :
    Meets place asked (fun _ ↦ Follows s) (Lags s)
      ((addToBundle (place.tools dice config)).run w) := by
  unfold addToBundle
  rw [run_bind_ledgerOf]
  refine meets_bind_pick (fun d ↦ meets_bind_pick h.meets_skip fun _ _ ↦ h.meets_skip)
    fun bundle hbundle d ↦ meets_bind_pick h.meets_skip fun member hmember d' ↦ ?_
  obtain ⟨members, hmem⟩ := mem_keys.mp hbundle
  replace hmember := Ledger.hasObject_iff.mpr hmember
  have hlegible := h.ready.legible
  have hfrom := h.tracks.hasObject_bundle hbundle
  have hto := h.tracks.hasObject hmember
  have hkind : RelationKind.inBundle ≠ .bundleRelation := by decide
  have hmade := hlegible.withRelation hkind hfrom hto
  have hlags : Lags s (s.withRelation (s.nextRelation bundle member .inBundle)) w.ledger := by
    refine ⟨⟨0, (h.tracks.withMember bundle hmember).reviewing hmade ?_⟩, Nat.le_refl _⟩
    exact List.cons_subset.mpr ⟨hbundle, List.nil_subset _⟩
  refine meets_bind_call h.ready
    (hlegible.yields_addRelation h.within hkind hfrom hto) hmade h.lags hlags ?_
  intro w' hready hledger
  rw [run_bind_note]
  refine .done hready ⟨?_, Nat.le_succ _⟩
  rw [hledger]
  exact h.tracks.recordMember hmem hmember

/-- A bundle lists its members. -/
theorem meets_bind_listed {bundle : Nat} {members : List Nat}
    {next : List Nat → Action (Worker σ World Statement) α}
    (hmem : (bundle, members) ∈ w.ledger.bundles) (hfailed : failed s w.ledger)
    (hnext : ∀ seen w', w'.backend.Ready place asked s → w'.ledger = w.ledger →
      (∀ member, member ∈ seen ↔ member ∈ members) →
        Meets place asked ok failed ((next seen).run w')) (d : σ) :
    Meets place asked ok failed
      ((listed (place.tools dice config) bundle >>= next).run { w with dice := d }) := by
  have hpresent := h.tracks.hasObject_bundle (mem_keys.mpr ⟨members, hmem⟩)
  obtain ⟨infos, hyields, hlisted⟩ :=
    h.ready.legible.yields_bundleObjects h.within w.backend.reader hpresent
  unfold listed
  rw [bind_assoc, Backend.collect_bundleObjects]
  refine meets_bind_call h.ready hyields h.ready.legible hfailed hfailed ?_
  intro w' hready hledger
  rw [pure_bind]
  refine hnext _ w' hready hledger fun member ↦ ?_
  rw [Ascending.mem_ofList, hlisted, h.tracks.members bundle members hmem List.not_mem_nil]

theorem meets_listBundle :
    Meets place asked (fun _ ↦ Follows s) (Follows s)
      ((listBundle (place.tools dice config)).run w) := by
  unfold listBundle
  rw [run_bind_ledgerOf]
  refine meets_bind_pick h.meets_skip ?_
  rintro ⟨bundle, members⟩ hmem d
  refine h.meets_bind_listed hmem h.follows (fun seen w' hready hledger hseen ↦ ?_) d
  have hall : members.all seen.contains = true :=
    List.all_eq_true.mpr fun member hmember ↦
      List.contains_iff_mem.mpr ((hseen member).mpr hmember)
  rw [if_pos hall]
  exact .done hready (hledger.symm ▸ h.follows)

theorem meets_deleteBundle :
    Meets place asked (fun _ ↦ Follows s) (Lags s)
      ((deleteBundle (place.tools dice config)).run w) := by
  unfold deleteBundle
  rw [run_bind_ledgerOf]
  refine meets_bind_pick h.meets_skip fun bundle hbundle d ↦ ?_
  obtain ⟨members, hmem⟩ := mem_keys.mp hbundle
  obtain ⟨row, hrow, rfl, hkind⟩ := h.tracks.bundles bundle members hmem
  have hlegible := h.ready.legible
  have hwithout := hlegible.without_deleteBundle hrow hkind
  have hdeleted := h.tracks.deleteBundle hlegible hmem hwithout
  have hleft := hlegible.of_without (.deletion (.int row.id)) hwithout
  have hself : row.id ∉ s.memberObjects row.id := by
    intro hmember
    have hplain := h.tracks.not_isBundle hlegible
      (h.tracks.known row.id members hmem row.id hmember) hrow rfl
    rw [hkind] at hplain
    cases hplain
  have habsent : (s.deleteBundle (.int row.id)).2.hasObject row.id = false := by
    rw [← Bool.not_eq_true, Store.hasObject_iff]
    rintro ⟨left, hleft, hid⟩
    exact ((hwithout.objects left).mp hleft).2 (.inl hid)
  have hlags : Lags s (s.deleteBundle (.int row.id)).2 w.ledger :=
    ⟨⟨row.id, hdeleted.reviewing_of_deleted hleft h.tracks.bundleKeys hmem habsent
      (List.nil_subset _)⟩, Nat.le_of_eq hwithout.lastObject⟩
  refine meets_bind_call h.ready (hlegible.yields_deleteBundle h.within hrow hkind hself)
    hleft h.lags hlags ?_
  intro w' hready hledger
  rw [run_bind_note]
  refine .done hready ⟨?_, Nat.le_succ_of_le hlags.2⟩
  rw [hledger]
  exact hdeleted

/-- A reconnection that is asked for succeeds. -/
theorem meets_reconnect :
    Meets place (asked + 1) (fun _ ↦ Follows s) failed
      ((reconnect (place.tools dice config)).run w) := by
  obtain ⟨c', hreconnect, hkept, hreconnects, hinjected, hsize, hnow⟩ := h.ready.kept.reconnect
  obtain ⟨live, hopen⟩ := hkept.isOpen
  let w' : Worker σ World Statement :=
    { w with backend := { w.backend with connection := c' } }
  have hbudget := h.ready.reconnects_le
  have hready : w'.backend.Ready place (asked + 1) s := by
    refine ⟨hkept, h.ready.legible, ?_, h.ready.options_eq, hsize.trans h.ready.poolSize_eq, ?_⟩
    · exact hnow ▸ h.ready.clock
    · change c'.reconnects ≤ asked + 1 + c'.world.plan.injected
      omega
  have hrun : (onBackend (Backend.reconnect (place.tools dice config).driver)).run w =
      (.ok (), w') := by
    have hsame : Connection.reconnect (place.tools dice config).driver w.backend.connection =
        (.ok (), c') := hreconnect
    simp only [onBackend, Backend.reconnect, Backend.onConnection, Action.run, hsame, w']
  have hgeneration : (onBackend fun backend ↦ (backend.connection.generation, backend)).run w' =
      (.ok live.generation, w') := by
    simp only [onBackend, Action.run, w', Connection.generation, hopen.live_eq]
  unfold reconnect
  rw [Action.run_bind, hrun]
  dsimp only
  rw [Action.run_bind, hgeneration]
  exact .done hready h.follows

end InStep

/-- How many reconnections an operation asks for. -/
def asks (op : Op) : Nat := if op = .reconnect then 1 else 0

/-- What a failed operation leaves. Only those on bundles can leave the ledger behind. -/
def Leaves (op : Op) : Store → Store → Ledger → Prop :=
  match op with
  | .deleteBundle | .addToBundle => Lags
  | _ => Follows

/-- Whatever operation is run, it fails as a statement at worst, and the ledger follows the store or
can be brought in line. -/
theorem InStep.meets_apply (h : InStep place asked s w) (op : Op) :
    Meets place (asked + asks op) (fun _ ↦ Follows s) (Leaves op s)
      ((apply (place.tools dice config) op).run w) := by
  cases op with
  | createObject => exact h.meets_createObject
  | lookupObject => exact h.meets_lookupObject
  | addRelation => exact h.meets_addRelation
  | addProperty => exact h.meets_addProperty
  | listAncestors => exact h.meets_listAncestors
  | createBundle => exact h.meets_createBundle
  | addToBundle => exact h.meets_addToBundle
  | listBundle => exact h.meets_listBundle
  | deleteBundle => exact h.meets_deleteBundle
  | reconnect => exact h.meets_reconnect

end Worker

end Simulation

end Provenance
