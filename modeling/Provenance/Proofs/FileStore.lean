import Provenance.Proofs.Rows

/-!
A store in a file. A `FileSite` is a file and a connection string that leads to it; a world may keep
a store at the site (`Keeps`), or be about to, since connecting makes the tables of a file that has
none (`Offers`). Connecting, preparing and disconnecting change nothing but the connection of a
world that keeps a store. Executing a statement comes to what the store makes of it
(`Store.outcome`), and what a store refuses is never taken for a dropped link.
-/

set_option autoImplicit false
set_option relaxedAutoImplicit false

namespace Provenance

open Relational (Contents Link Statement World)

/-! ### Files -/

namespace Relational.World

theorem find?_map_replace (files : List (String × Contents)) (path : String) (contents : Contents)
    (h : files.any fun file ↦ file.1 == path) :
    (files.map fun file ↦ if file.1 == path then (path, contents) else file).find?
      (fun file ↦ file.1 == path) = some (path, contents) := by
  induction files with
  | nil => cases h
  | cons file rest ih =>
    by_cases hfile : file.1 == path
    · simp [beq_iff_eq.mp hfile]
    · have hrest : rest.any fun file ↦ file.1 == path := by
        simpa only [List.any_cons, Bool.or_eq_true, hfile, Bool.false_eq_true, false_or] using h
      simp only [List.map_cons, hfile, Bool.false_eq_true, if_false, List.find?_cons]
      exact ih hrest

theorem contentsOf?_putFile (w : World) (path : String) (contents : Contents) :
    (w.putFile path contents).contentsOf? path = some contents := by
  unfold putFile contentsOf?
  by_cases h : w.files.any fun file ↦ file.1 == path
  · rw [if_pos h, find?_map_replace w.files path contents h]
    rfl
  · have hnone : w.files.find? (fun file ↦ file.1 == path) = none := by
      rw [List.find?_eq_none]
      exact fun file hfile hpath ↦ h (List.any_eq_true.mpr ⟨file, hfile, hpath⟩)
    rw [if_neg h, List.find?_append, hnone]
    simp

theorem link_putFile (w : World) (path : String) (contents : Contents) :
    (w.putFile path contents).link = w.link := by
  unfold putFile
  split <;> rfl

theorem now_putFile (w : World) (path : String) (contents : Contents) :
    (w.putFile path contents).now = w.now := by
  unfold putFile
  split <;> rfl

/-- The worlds are the same but for the connection. -/
def Agree (w w' : World) : Prop := { w with link := none } = { w' with link := none }

namespace Agree

variable {w w' w'' : World}

theorem refl (w : World) : Agree w w := rfl

theorem symm (h : Agree w w') : Agree w' w := Eq.symm h

theorem trans (h : Agree w w') (h' : Agree w' w'') : Agree w w'' := Eq.trans h h'

theorem relink (w : World) (link : Option Link) : Agree w { w with link } := rfl

theorem files_eq (h : Agree w w') : w'.files = w.files := (congrArg World.files h).symm

theorem missing_eq (h : Agree w w') : w'.missing = w.missing := (congrArg World.missing h).symm

theorem locked_eq (h : Agree w w') : w'.locked = w.locked := (congrArg World.locked h).symm

theorem now_eq (h : Agree w w') : w'.now = w.now := (congrArg World.now h).symm

theorem putFile (h : Agree w w') (path : String) (contents : Contents) :
    Agree (w.putFile path contents) (w'.putFile path contents) := by
  have hrelink : ∀ w : World, { w.putFile path contents with link := none } =
      { w with link := none }.putFile path contents := by
    intro w
    unfold World.putFile
    split <;> rfl
  have hput := congrArg (fun w : World ↦ w.putFile path contents) h
  exact (hrelink w).trans (hput.trans (hrelink w').symm)

end Agree

end Relational.World

/-! ### What stores refuse -/

theorem Violation.isLinkFailure_toError (violation : Violation) :
    violation.toError.isLinkFailure = false := by
  cases violation <;> rfl

/-- A query that does not write leaves the store as it was. -/
theorem Store.eq_of_run_eq_ok {now : Value} {query : Query} {params : List Value} {s s' : Store}
    {rows : List Row} (hreads : query.writes = false)
    (h : s.run now query params = .ok (rows, s')) : s' = s := by
  unfold Store.run at h
  split at h
  · cases h
  · cases query <;> first
      | exact (Store.eq_of_giveOut h).2
      | cases hreads

namespace Store

/-- What a driver reports of a query on the store. -/
def outcome (now : Value) (query : Query) (params : List Value) (s : Store) :
    Except DriverError (List Row × Store) :=
  match s.run now query params with
  | .error violation => .error violation.toError
  | .ok result => .ok result

variable {now : Value} {query : Query} {params : List Value} {s : Store}

theorem outcome_eq_ok_iff {result : List Row × Store} :
    s.outcome now query params = .ok result ↔ s.run now query params = .ok result := by
  unfold outcome
  cases s.run now query params <;> simp

theorem isLinkFailure_of_outcome {err : DriverError}
    (h : s.outcome now query params = .error err) : err.isLinkFailure = false := by
  unfold outcome at h
  split at h
  · cases h
    exact Violation.isLinkFailure_toError _
  · cases h

/-- The count of parameters is what a store checks first. -/
theorem outcome_of_length_ne (h : params.length ≠ query.arity) :
    s.outcome now query params =
      .error (Violation.parameterCount params.length query.arity).toError := by
  simp only [outcome, run, if_pos h]

end Store

/-! ### Sites -/

/-- A file that may be written, and a connection string that leads to it. -/
structure FileSite where
  config : Relational.Config
  text : String
  target : String
  path : String
  access : Access
  leads : Relational.target config text = .ok target
  noNul : target.toList.contains '\x00' = false
  located : Location.ofTarget target = .ok ⟨some path, access⟩
  writable : access ≠ .readOnly

namespace FileSite

variable (site : FileSite)

abbrev driver : Driver (Faulty World) Statement := Relational.faulty site.config

/-- Connections to the site, before and after the layout of the tables has been read. -/
def link (layoutRead : Bool) : Link := ⟨.file site.path, false, layoutRead⟩

/-- Nobody else holds the files, and the folder of the file exists. -/
structure Free (w : World) : Prop where
  unlocked : w.locked = false
  present : (w.missing.any fun folder ↦ folder.toList.isPrefixOf site.path.toList) = false

/-- The file is free and its tables are those of the store. -/
structure Keeps (w : World) (s : Store) : Prop where
  free : site.Free w
  tables : w.contentsOf? site.path = some (.tables s)

/-- The file is free, and a connection finds the store in it. A file without tables gets them, and
one that is not there is made, if the site allows for that. -/
structure Offers (w : World) (s : Store) : Prop where
  free : site.Free w
  found : w.contentsOf? site.path = some (.tables s) ∨
    s = .empty ∧ site.config.makesTables = true ∧
      (w.contentsOf? site.path = some .bare ∨
        w.contentsOf? site.path = none ∧ site.access = .create)

/-- A connection to the site is open. -/
def Linked (w : World) : Prop := ∃ layoutRead, w.link = some (site.link layoutRead)

variable {site} {w : World} {s s' : Store} {now : Value} {query : Query} {params : List Value}

theorem Keeps.offers (h : site.Keeps w s) : site.Offers w s := ⟨h.free, .inl h.tables⟩

theorem Keeps.unique (h : site.Keeps w s) (h' : site.Keeps w s') : s = s' := by
  have htables := h.tables.symm.trans h'.tables
  simpa using htables

theorem Free.of_agree {w' : World} (h : site.Free w) (hw : World.Agree w w') : site.Free w' :=
  ⟨hw.locked_eq ▸ h.unlocked, hw.missing_eq ▸ h.present⟩

/-- The connection is no part of what a world keeps. -/
theorem Keeps.of_agree {w' : World} (h : site.Keeps w s) (hw : World.Agree w w') :
    site.Keeps w' s := by
  refine ⟨h.free.of_agree hw, ?_⟩
  rw [World.contentsOf?, hw.files_eq]
  exact h.tables

theorem Free.putFile (h : site.Free w) (path : String) (contents : Contents) :
    site.Free (w.putFile path contents) := by
  unfold World.putFile
  split <;> exact ⟨h.unlocked, h.present⟩

theorem Free.keeps_putFile (h : site.Free w) (s : Store) :
    site.Keeps (w.putFile site.path (.tables s)) s :=
  ⟨h.putFile _ _, World.contentsOf?_putFile _ _ _⟩

/-! ### Connecting -/

theorem contents_of_keeps (h : site.Keeps w s) (layoutRead : Bool) :
    w.contents (site.link layoutRead) = .tables s := by
  simp [World.contents, link, h.tables]

theorem holds_of_keeps (h : site.Keeps w s) (layoutRead : Bool) :
    w.holds (site.link layoutRead) = false := h.free.unlocked

theorem makeTables_of_keeps (h : site.Keeps w s) (layoutRead : Bool) :
    Relational.makeTables (site.link layoutRead) w = .ok w := by
  simp [Relational.makeTables, holds_of_keeps h, contents_of_keeps h]

/-- What connecting does once the target has been read. -/
theorem connect_eq :
    Relational.connect site.config site.text w =
      match Relational.openMedium ⟨some site.path, site.access⟩ w with
      | (.error err, w) => (.error err, w)
      | (.ok medium, w) =>
        let link : Link := ⟨medium, false, site.config.makesTables⟩
        let opened : World := { w with link := some link }
        if site.config.makesTables then
          match Relational.makeTables link opened with
          | .ok opened => (.ok (), opened)
          | .error err => (.error err, w)
        else (.ok (), opened) := by
  have hreadOnly : (site.access == .readOnly) = false := by simpa using site.writable
  simp only [Relational.connect, site.leads, site.noNul, site.located, Bool.false_eq_true, if_false]
  rewrite [hreadOnly]
  rfl

theorem openMedium_of_present (h : site.Free w) {contents : Contents}
    (hfile : w.contentsOf? site.path = some contents) :
    Relational.openMedium ⟨some site.path, site.access⟩ w = (.ok (.file site.path), w) := by
  simp [Relational.openMedium, h.present, hfile]

/-- A file whose tables are there is opened as it is. -/
theorem connect_of_keeps (h : site.Keeps w s) :
    Relational.connect site.config site.text w =
      (.ok (), { w with link := some (site.link site.config.makesTables) }) := by
  have hopened := makeTables_of_keeps
    (h.of_agree (.relink w (some (site.link site.config.makesTables)))) site.config.makesTables
  rw [connect_eq, openMedium_of_present h.free h.tables]
  change (if site.config.makesTables then
    match Relational.makeTables (site.link site.config.makesTables)
        { w with link := some (site.link site.config.makesTables) } with
    | .ok opened => (Except.ok (), opened)
    | .error err => (.error err, w)
    else (.ok (), { w with link := some (site.link site.config.makesTables) })) = _
  rw [hopened]
  exact ite_self _

/-- A file without tables gets them when it is opened. -/
theorem connect_of_bare (hfree : site.Free w) (hmakes : site.config.makesTables = true)
    (hfile : w.contentsOf? site.path = some .bare) :
    Relational.connect site.config site.text w =
      (.ok (), { w with link := some (site.link true) }.putFile site.path (.tables .empty)) := by
  have hreadOnly : (site.link true).readOnly = false := rfl
  have hmake : Relational.makeTables (site.link true) { w with link := some (site.link true) } =
      .ok ({ w with link := some (site.link true) }.putFile site.path (.tables .empty)) := by
    have hcontents : World.contents { w with link := some (site.link true) } (site.link true) =
        .bare := by
      change (w.contentsOf? site.path).getD .bare = .bare
      rw [hfile]
      rfl
    have hholds : World.holds { w with link := some (site.link true) } (site.link true) = false :=
      hfree.unlocked
    simp only [Relational.makeTables, hholds, hcontents, hreadOnly, Bool.false_eq_true, if_false]
    rfl
  rw [connect_eq, openMedium_of_present hfree hfile]
  simp only [hmakes, if_true]
  change (match Relational.makeTables (site.link true)
      { w with link := some (site.link true) } with
    | .ok opened => (Except.ok (), opened)
    | .error err => (.error err, w)) = _
  rw [hmake]

/-- A file that is made when it is opened was as good as one without tables. -/
theorem connect_of_absent (hfree : site.Free w) (hcreate : site.access = .create)
    (hfile : w.contentsOf? site.path = none) :
    Relational.connect site.config site.text w =
      Relational.connect site.config site.text (w.putFile site.path .bare) := by
  rw [connect_eq, connect_eq,
    openMedium_of_present (hfree.putFile _ _) (World.contentsOf?_putFile w site.path .bare)]
  simp [Relational.openMedium, hfree.present, hfile, hcreate]

/-- Connecting finds the store that a site offers. -/
theorem connect_of_offers (h : site.Offers w s) :
    ∃ opened, Relational.connect site.config site.text w = (.ok (), opened) ∧
      site.Linked opened ∧ site.Keeps opened s ∧ opened.now = w.now := by
  have hbare : ∀ {w : World}, site.Free w → site.config.makesTables = true →
      w.contentsOf? site.path = some .bare →
      ∃ opened, Relational.connect site.config site.text w = (.ok (), opened) ∧
        site.Linked opened ∧ site.Keeps opened .empty ∧ opened.now = w.now := by
    intro w hfree hmakes hfile
    have hlinked : site.Free { w with link := some (site.link true) } :=
      hfree.of_agree (.relink w (some (site.link true)))
    exact ⟨_, connect_of_bare hfree hmakes hfile, ⟨true, World.link_putFile _ _ _⟩,
      hlinked.keeps_putFile .empty, World.now_putFile _ _ _⟩
  obtain ⟨hfree, htables | ⟨rfl, hmakes, hfile | ⟨hfile, hcreate⟩⟩⟩ := h
  · have hkeeps : site.Keeps w s := ⟨hfree, htables⟩
    exact ⟨_, connect_of_keeps hkeeps, ⟨_, rfl⟩, hkeeps.of_agree (.relink w _), rfl⟩
  · exact hbare hfree hmakes hfile
  · rw [connect_of_absent hfree hcreate hfile, ← World.now_putFile w site.path .bare]
    exact hbare (hfree.putFile _ _) hmakes (World.contentsOf?_putFile w site.path .bare)

/-! ### Statements -/

theorem prepare_of_keeps (hlinked : site.Linked w) (h : site.Keeps w s) :
    Relational.prepare (.query query) w =
      (.ok ⟨.query query, [], none⟩, { w with link := some (site.link true) }) := by
  obtain ⟨layoutRead, hlink⟩ := hlinked
  simp only [Relational.prepare, hlink, Relational.readLayout, contents_of_keeps h,
    holds_of_keeps h, Bool.false_and, Bool.false_eq_true, if_false]
  rfl

/-- Executing comes to what the store makes of the query. -/
theorem execute_of_keeps (hlinked : site.Linked w) (h : site.Keeps w s) :
    Relational.execute ⟨.query query, params, none⟩ w =
      match s.outcome w.now query params with
      | .error err => (.error err, ⟨.query query, params, none⟩, w)
      | .ok (rows, s') =>
        (.ok (), ⟨.query query, params, some ⟨none, rows⟩⟩,
          if query.writes then w.putFile site.path (.tables s') else w) := by
  obtain ⟨layoutRead, hlink⟩ := hlinked
  simp only [Relational.execute, hlink, Relational.runCommand, Relational.runQuery,
    contents_of_keeps h, holds_of_keeps h]
  by_cases harity : params.length ≠ query.arity
  · simp only [if_pos harity, Store.outcome_of_length_ne harity]
  · simp only [if_neg harity, link, Bool.and_false, Bool.false_eq_true, if_false, Store.outcome]
    cases s.run w.now query params with
    | error violation => rfl
    | ok result => rfl

end FileSite

end Provenance
