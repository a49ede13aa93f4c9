import Provenance.Proofs.Generations
import Provenance.Proofs.LastPass

/-!
Frames of driver calls. A relation between worlds that holds across every call that a pass over a
request consists of holds across the pass (`PassFrame.attempt`), which touches nothing else of the
connection but its pools and its log (`untouched_attempt`); one that holds across every call that
opening and closing consists of holds across a reconnection (`UpkeepFrame.reconnectIfCurrent`). What
outlasts failed passes and reconnections, and a last pass that is done, holds when a request has
been performed (`Outlasts.perform`).
-/

set_option autoImplicit false
set_option relaxedAutoImplicit false

namespace Provenance

variable {W H α : Type} {driver : Driver W H} {related : W → W → Prop}

/-! ### Passes -/

/-- A relation between worlds that holds across every driver call of a pass over the request. -/
structure PassFrame (driver : Driver W H) (request : Request α) (related : W → W → Prop) :
    Prop where
  refl : ∀ w, related w w
  trans : ∀ {w w' w''}, related w w' → related w' w'' → related w w''
  bind : ∀ handle w, related w (driver.bind request.params handle w).2.2
  execute : ∀ handle w, related w (driver.execute handle w).2.2
  fetch : ∀ handle w, related w (driver.fetch handle w).2.2
  column : ∀ index handle w, related w (driver.column index handle w).2.2
  close : ∀ handle w, related w (driver.close handle w).2.2

namespace PassFrame

variable {request : Request α} (h : PassFrame driver request related)

include h

theorem closeQuietly (query : Query) (opened : Opened W H) :
    related opened.world (opened.closeQuietly driver query).world := by
  have hclose := h.close opened.handle opened.world
  unfold Opened.closeQuietly
  split <;> rename_i heq <;> rwa [heq] at hclose

theorem run {β : Type} (reading : Reading β) (query : Query) (opened : Opened W H) :
    related opened.world (reading.run driver query opened).2.world := by
  induction reading generalizing opened with
  | stop result => exact h.refl _
  | fetch next ih =>
    have hfetch := h.fetch opened.handle opened.world
    simp only [Reading.run]
    rcases heq : driver.fetch opened.handle opened.world with ⟨err | more, handle, w⟩ <;>
      rw [heq] at hfetch
    · exact h.trans hfetch (h.closeQuietly query
        ⟨handle, w, opened.log ++ Event.ofError query.name err⟩)
    · exact h.trans hfetch (ih more ⟨handle, w, opened.log⟩)
  | column index next ih =>
    have hcolumn := h.column index opened.handle opened.world
    simp only [Reading.run]
    rcases heq : driver.column index opened.handle opened.world with ⟨err | value, handle, w⟩ <;>
      rw [heq] at hcolumn
    · exact h.trans hcolumn (h.closeQuietly query
        ⟨handle, w, opened.log ++ Event.ofError query.name err⟩)
    · exact h.trans hcolumn (ih value ⟨handle, w, opened.log⟩)
  | close next ih => exact h.trans (h.closeQuietly query opened) (ih _)

end PassFrame

/-- The connection that a pass leaves. -/
def Connection.Attempt.after (c : Connection W H) : Attempt W H α → Connection W H
  | .done _ c' | .failed _ _ _ c' => c'
  | .unconnected => c

open Connection

theorem PassFrame.attempt {request : Request α} (h : PassFrame driver request related)
    (c : Connection W H) : related c.world ((attempt driver request c).after c).world := by
  unfold Connection.attempt
  dsimp only
  split
  · exact h.refl _
  split
  · exact h.refl _
  split
  · exact h.refl _
  · exact h.refl _
  rename_i handle rest hacquire
  have hbind := h.bind handle c.world
  rcases hbound : driver.bind request.params handle c.world with ⟨err | _, handle, w⟩ <;>
    rw [hbound] at hbind
  · exact h.trans hbind (h.closeQuietly request.query ⟨handle, w, c.log⟩)
  have hexecute := h.execute handle w
  dsimp only
  rcases hexecuted : driver.execute handle w with ⟨err | _, handle, w'⟩ <;>
    rw [hexecuted] at hexecute
  · exact h.trans hbind (h.trans hexecute (h.closeQuietly request.query ⟨handle, w', c.log⟩))
  · have hread := h.run (request.read (driver.rowsLeft handle + 1)) request.query
      ⟨handle, w', c.log⟩
    exact h.trans hbind (h.trans hexecute (h.trans hread (h.closeQuietly request.query _)))

/-! ### Reconnections -/

/-- A relation between worlds that holds across every driver call that opens or closes. -/
structure UpkeepFrame (driver : Driver W H) (related : W → W → Prop) : Prop where
  refl : ∀ w, related w w
  trans : ∀ {w w' w''}, related w w' → related w' w'' → related w w''
  connect : ∀ target w, related w (driver.connect target w).2
  prepare : ∀ query w, related w (driver.prepare query w).2
  discard : ∀ handle w, related w (driver.discard handle w)
  disconnect : ∀ w, related w (driver.disconnect w).2

namespace UpkeepFrame

variable (h : UpkeepFrame driver related)

include h

theorem prepareHandles (query : Query) (size : Nat) (w : W) :
    related w (Live.prepareHandles driver query size w).2 := by
  induction size generalizing w with
  | zero => exact h.refl w
  | succ size ih =>
    have hprepare := h.prepare query w
    simp only [Live.prepareHandles]
    rcases heq : driver.prepare query w with ⟨err | handle, w'⟩ <;> rw [heq] at hprepare
    · exact hprepare
    · exact h.trans hprepare (ih w')

theorem preparePools (size : Nat) (queries : List Query) (w : W) :
    related w (Live.preparePools driver size queries w).2 := by
  induction queries generalizing w with
  | nil => exact h.refl w
  | cons query rest ih =>
    have hhandles := h.prepareHandles query size w
    simp only [Live.preparePools]
    rcases heq : Live.prepareHandles driver query size w with ⟨⟨handles, _ | err⟩, w'⟩ <;>
      rw [heq] at hhandles
    · have hrest := ih w'
      dsimp only
      rcases hpools : Live.preparePools driver size rest w' with ⟨_ | _, w''⟩ <;>
        rw [hpools] at hrest <;> exact h.trans hhandles hrest
    · exact hhandles

theorem tearDown (generation : Nat) (handles : List H) (w : W) :
    related w (Live.tearDown driver generation handles w).1 := by
  have hemptied : ∀ w, related w
      (handles.foldl (fun world handle ↦ driver.discard handle world) w) := by
    induction handles with
    | nil => exact h.refl
    | cons handle rest ih => exact fun w ↦ h.trans (h.discard handle w) (ih _)
  have hclosed := h.trans (hemptied w) (h.disconnect _)
  unfold Live.tearDown
  dsimp only
  split <;> rename_i heq <;> rwa [heq] at hclosed

theorem build (target : String) (size generation : Nat) (w : W) :
    related w (Live.build driver target size generation w).2.1 := by
  have hconnect := h.connect target w
  simp only [Live.build]
  rcases heq : driver.connect target w with ⟨err | _, w'⟩ <;> rw [heq] at hconnect
  · exact hconnect
  · have hpools := h.preparePools size Query.all w'
    dsimp only
    rcases hprepared : Live.preparePools driver size Query.all w' with
      ⟨pools | ⟨query, err, handles⟩, w''⟩ <;> rw [hprepared] at hpools
    · exact h.trans hconnect hpools
    · exact h.trans hconnect (h.trans hpools (h.tearDown generation handles w''))

variable (c : Connection W H)

theorem closed : related c.world (Connection.disconnect driver c).world := by
  unfold Connection.disconnect
  split
  · exact h.refl _
  · exact h.tearDown _ _ _

theorem openNext : related c.world (Connection.openNext driver c).2.world := by
  have hbuild := h.build c.target c.poolSize (c.lastGeneration + 1) c.world
  unfold Connection.openNext
  dsimp only
  split <;> rename_i heq <;> rwa [heq] at hbuild

theorem reconnectIfCurrent (generation : Nat) :
    related c.world (Connection.reconnectIfCurrent driver generation c).2.world := by
  unfold Connection.reconnectIfCurrent
  split
  · split
    · exact h.trans (h.closed c) (h.openNext _)
    · exact h.refl _
  · exact h.openNext c

theorem reconnectIfDisconnected :
    related c.world (Connection.reconnectIfDisconnected driver c).2.world := by
  unfold Connection.reconnectIfDisconnected
  split
  · exact h.refl _
  · exact h.openNext c

end UpkeepFrame

/-! ### Performing -/

namespace Connection

variable {request : Request α} {c : Connection W H} {budget retries : Nat}
  {property : Connection W H → Prop}

theorem untouched_attempt (driver : Driver W H) (request : Request α) (c : Connection W H) :
    Untouched c ((attempt driver request c).after c) := by
  unfold attempt
  dsimp only
  split
  · exact ⟨rfl, rfl, rfl⟩
  rename_i live hlive
  have hlive' : c.live.map (·.generation) = some live.generation := by rw [hlive]; rfl
  repeat' split
  all_goals exact ⟨by first | rfl | exact hlive'.symm, rfl, rfl⟩

/-- What a pass that is done leaves as well holds when the request has been performed. -/
theorem Outlasts.perform (h : Outlasts driver request property)
    (hdone : ∀ {c c' result}, property c → attempt driver request c = .done result c' →
      property c') (hc : property c) :
    property (Connection.perform driver request budget retries c).2 := by
  rcases perform_ends h budget retries hc with ⟨err, -, hends, -⟩ | ⟨last, hlast, hattempt⟩
  · exact hends
  · exact hdone hlast hattempt

end Connection

end Provenance
