import Provenance.Proofs.DatedObjects
import Provenance.Proofs.Executing
import Provenance.Proofs.FoundOrMade

/-!
The objects that a call creates. `World.Gains` compares what is stored before and after, file by
file, and in memory: every object that is new is one of some kind. Opening and closing connections
creates none (`gains_upkeep`), and a database that serves a request creates only the object that
this asks for (`created_of_serve`). So through any failures, retries and reconnections a call that
creates an object or a bundle for a session creates nothing but objects of that session, and the id
that it answers with is that of one (`Watched.created_by_call`).
-/

set_option autoImplicit false
set_option relaxedAutoImplicit false

namespace Provenance

variable {α : Type}

/-! ### What is stored where -/

namespace Relational

/-- The objects among what a database holds. -/
def Contents.objects : Contents → List ObjectRow
  | .tables s => s.objects
  | .damaged | .bare => []

/-- The file behind a connection, unless that is to a database in memory. -/
def Medium.path? : Medium → Option String
  | .memory _ => none
  | .file path => some path

namespace World

/-- What the open connection holds in memory. -/
def memory (w : World) : Contents :=
  match w.link with
  | some ⟨.memory contents, _, _⟩ => contents
  | _ => .bare

/-- What is in a file, or else in memory. -/
def contentsAt (w : World) : Option String → Contents
  | some path => (w.contentsOf? path).getD .bare
  | none => w.memory

/-- What is stored after and was not stored before is of this kind, in every file and in memory. -/
def Gains (new : ObjectRow → Prop) (w w' : World) : Prop :=
  ∀ path, ∀ row ∈ (w'.contentsAt path).objects, row ∈ (w.contentsAt path).objects ∨ new row

variable {new : ObjectRow → Prop} {w w' w'' : World} {link : Link} {contents : Contents}

theorem Gains.refl (new : ObjectRow → Prop) (w : World) : Gains new w w :=
  fun _ _ hrow ↦ .inl hrow

theorem Gains.trans (h : Gains new w w') (h' : Gains new w' w'') : Gains new w w'' := by
  intro path row hrow
  rcases h' path row hrow with hold | hnew
  · exact h path row hold
  · exact .inr hnew

theorem Gains.mono {more : ObjectRow → Prop} (h : Gains new w w')
    (hmore : ∀ row, new row → more row) : Gains more w w' :=
  fun path row hrow ↦ (h path row hrow).imp_right (hmore row)

/-- Where the files stay as they are, only what is in memory matters. -/
theorem Gains.of_files (hfiles : w'.files = w.files)
    (hmemory : w'.memory.objects ⊆ w.memory.objects) : Gains new w w' := by
  intro path row hrow
  cases path with
  | none => exact .inl (hmemory hrow)
  | some path =>
    rw [contentsAt, contentsOf?, hfiles] at hrow
    exact .inl hrow

/-! ### Files -/

theorem find?_map_replace_of_ne (files : List (String × Contents)) {path other : String}
    (contents : Contents) (h : other ≠ path) :
    (files.map fun file ↦ if file.1 == path then (path, contents) else file).find?
      (fun file ↦ file.1 == other) = files.find? fun file ↦ file.1 == other := by
  induction files with
  | nil => rfl
  | cons file rest ih =>
    rw [List.map_cons, List.find?_cons, List.find?_cons, ih]
    by_cases hfile : file.1 == path
    · have hother : (path == other) = false := beq_eq_false_iff_ne.mpr h.symm
      rw [if_pos hfile, beq_iff_eq.mp hfile, hother]
    · rw [if_neg hfile]

theorem contentsOf?_putFile_of_ne (w : World) {path other : String} (contents : Contents)
    (h : other ≠ path) : (w.putFile path contents).contentsOf? other = w.contentsOf? other := by
  unfold putFile contentsOf?
  by_cases hany : w.files.any fun file ↦ file.1 == path
  · rw [if_pos hany, find?_map_replace_of_ne w.files contents h]
  · have hother : (path == other) = false := beq_eq_false_iff_ne.mpr h.symm
    rw [if_neg hany, List.find?_append, List.find?_cons, hother]
    simp

theorem memory_putFile (w : World) (path : String) (contents : Contents) :
    (w.putFile path contents).memory = w.memory := by
  rw [memory, link_putFile]
  rfl

/-- An object comes into a file as one of what is put there. -/
theorem gains_putFile {path : String}
    (h : ∀ row ∈ contents.objects, row ∈ (w.contentsAt (some path)).objects ∨ new row) :
    Gains new w (w.putFile path contents) := by
  intro other row hrow
  cases other with
  | none =>
    rw [contentsAt, memory_putFile] at hrow
    exact .inl hrow
  | some other =>
    by_cases hsame : other = path
    · subst hsame
      rw [contentsAt, contentsOf?_putFile] at hrow
      exact h row hrow
    · rw [contentsAt, contentsOf?_putFile_of_ne w contents hsame] at hrow
      exact .inl hrow

/-- An object comes into the database of the open connection as one of what is written there. -/
theorem gains_write (hlink : w.link = some link)
    (h : ∀ row ∈ contents.objects, row ∈ (w.contents link).objects ∨ new row) :
    Gains new w (w.write link contents) := by
  obtain ⟨medium, readOnly, layoutRead⟩ := link
  cases medium with
  | file path => exact gains_putFile h
  | memory old =>
    have hold : w.memory = old := by rw [memory, hlink]
    intro path row hrow
    cases path with
    | none =>
      rw [contentsAt, hold]
      exact h row hrow
    | some path => exact .inl hrow

/-- What has been written is what the connection is to. -/
theorem serves_write {s : Store} (hlink : w.link = some link) (hfree : w.holds link = false) :
    (w.write link (.tables s)).Serves s := by
  obtain ⟨medium, readOnly, layoutRead⟩ := link
  cases medium with
  | memory old => exact ⟨_, rfl, rfl, rfl⟩
  | file path =>
    refine ⟨⟨.file path, readOnly, layoutRead⟩, (link_putFile w path _).trans hlink, ?_, ?_⟩
    · change ((w.putFile path (.tables s)).contentsOf? path).getD .bare = .tables s
      rw [contentsOf?_putFile]
      rfl
    · change (w.putFile path (.tables s)).locked = false
      unfold putFile
      split <;> exact hfree

/-! ### Opening and closing -/

/-- A medium that is opened has nothing in memory. -/
theorem gains_openMedium {location : Location} {result : Except DriverError Medium}
    (h : openMedium location w = (result, w')) :
    Gains new w w' ∧ ∀ old, result = .ok (.memory old) → old = .bare := by
  unfold openMedium at h
  split at h
  · obtain ⟨rfl, rfl⟩ := Prod.mk.inj h
    exact ⟨.refl new _, fun old hold ↦ by cases hold; rfl⟩
  split at h
  · obtain ⟨rfl, rfl⟩ := Prod.mk.inj h
    exact ⟨.refl new _, fun old hold ↦ nomatch hold⟩
  split at h
  · obtain ⟨rfl, rfl⟩ := Prod.mk.inj h
    exact ⟨.refl new _, fun old hold ↦ nomatch hold⟩
  split at h
  · obtain ⟨rfl, rfl⟩ := Prod.mk.inj h
    exact ⟨gains_putFile fun _ hrow ↦ absurd hrow List.not_mem_nil, fun old hold ↦ nomatch hold⟩
  · obtain ⟨rfl, rfl⟩ := Prod.mk.inj h
    exact ⟨.refl new _, fun old hold ↦ nomatch hold⟩

/-- Tables that are made are empty. -/
theorem gains_makeTables (hlink : w.link = some link) (h : makeTables link w = .ok w') :
    Gains new w w' := by
  unfold makeTables at h
  split at h
  · cases h
  split at h
  · cases h
  · split at h
    · cases h
    · cases h
      exact gains_write hlink fun _ hrow ↦ absurd hrow List.not_mem_nil
  · cases h
    exact .refl new _

theorem gains_connect (config : Config) (text : String) (w : World) :
    Gains new w (connect config text w).2 := by
  unfold connect
  split
  · exact .refl new w
  split
  · exact .refl new w
  split
  · exact .refl new w
  rename_i location _
  rcases hopened : openMedium location w with ⟨err | medium, w'⟩
  · exact (gains_openMedium hopened).1
  obtain ⟨hopens, hmemory⟩ : Gains new w w' ∧ _ := gains_openMedium hopened
  have hlinked : ∀ link : Link, link.medium = medium →
      Gains new w { w' with link := some link } := by
    rintro ⟨medium', readOnly, layoutRead⟩ rfl
    refine hopens.trans (.of_files rfl ?_)
    cases medium' with
    | file path => exact List.nil_subset _
    | memory old =>
      obtain rfl := hmemory old rfl
      exact List.nil_subset _
  dsimp only
  split
  · split
    · rename_i hmade
      exact (hlinked _ rfl).trans (gains_makeTables rfl hmade)
    · exact hopens
  · exact hlinked _ rfl

theorem gains_prepare (command : Command) (w : World) : Gains new w (prepare command w).2 := by
  unfold prepare
  split
  · exact .refl new w
  rename_i link hlink
  have hread : Gains new w { w with link := some { link with layoutRead := true } } := by
    refine .of_files rfl ?_
    obtain ⟨medium, readOnly, layoutRead⟩ := link
    rw [memory, memory, hlink]
    cases medium <;> exact List.Subset.refl _
  dsimp only
  repeat' split
  all_goals first
    | exact .refl new w
    | exact hread

theorem gains_disconnect (w : World) : Gains new w (disconnect w).2 :=
  .of_files rfl (List.nil_subset _)

/-! ### Serving -/

/-- A request for something other than objects creates none. -/
theorem gains_of_serve {request : Request α} {rows : List Row}
    (hfills : request.query.fills ≠ some .objects) (h : w.serve request = .ok (rows, w')) :
    Gains new w w' := by
  unfold serve at h
  split at h
  · cases h
  rename_i link hlink
  obtain ⟨-, -, s, s', hcontents, hrun, rfl⟩ := runQuery_eq_ok_iff.mp h
  unfold afterQuery
  split
  · refine gains_write hlink fun row hrow ↦ .inl ?_
    rw [hcontents]
    exact (Store.Change.of_run hrun).objects_subset hfills hrow
  · exact .refl new w

end World

end Relational

open Relational (Config Statement World)

/-- A request to create an object or a bundle for a session. -/
inductive Request.Creates (session : Nat) : Request Nat → Prop
  | object (space name : String) (kind : ObjectKind) :
      Creates session
        (.oneId .createObject [.text space, .text name, .int kind.code, .int session])
  | bundle (name space : String) :
      Creates session (.oneId .createBundle [.text space, .text name, .int session])

namespace Request.Creates

variable {session : Nat} {request : Request Nat} {rows : List Row}

/-- A store that is not refused one has one more object, which is of the session. -/
theorem eq_withObject_of_run {s s' : Store} {now : Value} (h : request.Creates session)
    (hrun : s.run now request.query (request.params.map Value.asParameter) = .ok (rows, s')) :
    ∃ row, row.session = .int session ∧ rows = Store.returned row.id ∧ s' = s.withObject row := by
  cases h with
  | object space name kind =>
    obtain ⟨rfl, rfl⟩ := Store.eq_withObject_of_addObject kind hrun
    exact ⟨_, rfl, rfl, rfl⟩
  | bundle name space =>
    obtain ⟨rfl, rfl⟩ := Store.eq_withObject_of_addObject .bundle hrun
    exact ⟨_, rfl, rfl, rfl⟩

/-- What has been created for a session: nothing but an object of the session, which is in the
database behind the connection and goes by the id in the rows. -/
theorem created_of_serve {w w' : World} (h : request.Creates session)
    (hserve : w.serve request = .ok (rows, w')) :
    ∃ s row, row.session = .int session ∧ rows = Store.returned row.id ∧
      w'.Serves (Store.withObject row s) ∧ World.Gains (fun other ↦ other = row) w w' := by
  unfold World.serve at hserve
  split at hserve
  · cases hserve
  rename_i link hlink
  obtain ⟨-, hfree, s, s', hcontents, hrun, rfl⟩ := Relational.runQuery_eq_ok_iff.mp hserve
  obtain ⟨row, hsession, hrows, rfl⟩ := h.eq_withObject_of_run hrun
  have hwrites : request.query.writes = true := by cases h <;> rfl
  refine ⟨s, row, hsession, hrows, ?_, ?_⟩ <;> rw [World.afterQuery, if_pos hwrites]
  · exact World.serves_write hlink hfree
  · refine World.gains_write hlink fun other hother ↦ ?_
    rw [hcontents]
    rcases List.mem_append.mp hother with hold | hnew
    · exact .inl hold
    · exact .inr (List.mem_singleton.mp hnew)

theorem readOff_returned (h : request.Creates session) (id : Nat) :
    request.readOff (Store.returned id) = .ok id := by
  cases h <;> exact Request.readOff_oneId _ _ _

end Request.Creates

/-- Nothing has been created but for the session, and an id that is answered is that of an object of
the session in the database behind the connection. -/
def Relational.World.CreatedFor (session : Nat) (w w' : World) (answer : Except Error Nat) : Prop :=
  World.Gains (fun row ↦ row.session = .int session) w w' ∧
    ∀ id, answer = .ok id → ∃ s row, w'.Serves s ∧ row ∈ s.objects ∧ row.id = id ∧
      row.session = .int session

/-! ### Calls -/

namespace Watched

variable {config : Config} {new : ObjectRow → Prop} {backend : Watcher}

/-- A call that creates nothing does not when a failure may be planned for it either. -/
theorem gains_counted {β : Type} (change : FaultPlan → FaultPlan) (point : FaultPoint)
    {call : World → Except DriverError β × World} (h : ∀ w, World.Gains new w (call w).2)
    (w : Faulty World) :
    World.Gains new w.world (Faulty.count change (Faulty.guarded point call w)).2.world := by
  have hcall := h w.world
  rcases Faulty.count_cases change point call w with
    ⟨err, hcounted⟩ | ⟨err, world, hinner, hcounted⟩ | ⟨_, world, hinner, hcounted⟩ <;>
    rw [hcounted]
  · exact .refl new _
  · rwa [hinner] at hcall
  · rwa [hinner] at hcall

/-- Opening and closing connections creates nothing. -/
theorem gains_upkeep (config : Config) (new : ObjectRow → Prop) :
    UpkeepFrame (driver config) fun w w' ↦ World.Gains new w.world.world w'.world.world where
  refl _ := .refl new _
  trans h h' := h.trans h'
  connect target w := gains_counted _ .connect (World.gains_connect config target) w.world
  prepare query w := gains_counted _ .prepare (World.gains_prepare (.query query)) w.world
  discard _ _ := .refl new _
  disconnect _ := World.gains_disconnect _

/-- A call for something other than objects creates none. -/
theorem gains_of_call (h : backend.Tallied (tally config))
    {made : Reader → Except Error (Request α)}
    (hmade : ∀ reader, Ensures (made reader) fun request ↦ request.query.fills ≠ some .objects) :
    World.Gains new (stored backend)
      (stored ((Backend.call (driver config) made).run backend).2) := by
  cases hrequest : made backend.reader with
  | error err =>
    rw [Backend.run_call_of_error hrequest]
    exact .refl new _
  | ok request =>
    exact (related_call (gains_upkeep config new)
      (World.gains_of_serve (hmade _ request hrequest)) h hrequest).1

/-- A call that creates something for a session creates nothing but objects of the session, and an
id that it answers with is that of one. -/
theorem created_by_call {session : Nat} (h : backend.Tallied (tally config))
    {made : Reader → Except Error (Request Nat)}
    (hmade : ∀ reader, Ensures (made reader) (Request.Creates session)) :
    let ran := (Backend.call (driver config) made).run backend
    World.CreatedFor session (stored backend) (stored ran.2) ran.1 := by
  intro ran
  cases hrequest : made backend.reader with
  | error err =>
    have hran : ran = (.error err, backend) := Backend.run_call_of_error hrequest
    rw [hran]
    exact ⟨.refl _ _, fun id hid ↦ nomatch hid⟩
  | ok request =>
    have hcreates := hmade _ request hrequest
    have hserves : ∀ {w w' : World} {rows : List Row}, w.serve request = .ok (rows, w') →
        World.Gains (fun row ↦ row.session = .int session) w w' := by
      intro w w' rows hserve
      obtain ⟨-, row, hsession, -, -, hgains⟩ := hcreates.created_of_serve hserve
      exact hgains.mono fun other hother ↦ hother ▸ hsession
    obtain ⟨hgains, hanswer⟩ := related_call (gains_upkeep config _) hserves h hrequest
    refine ⟨hgains, fun id hid ↦ ?_⟩
    obtain ⟨w, rows, hserve, hread⟩ := hanswer id hid
    obtain ⟨s, row, hsession, rfl, hholds, -⟩ := hcreates.created_of_serve hserve
    rw [hcreates.readOff_returned] at hread
    exact ⟨_, row, hholds, List.mem_append_right _ (List.mem_singleton_self row),
      Except.ok.inj hread, hsession⟩

end Watched

end Provenance
