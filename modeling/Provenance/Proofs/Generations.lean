import Provenance.Proofs.Reachable
import Provenance.Proofs.SharedConnection

/-!
The generations of a shared connection. A caller that saw a failure names the generation it saw it
on, however long ago that was and whatever has been rebuilt since then. What the steps of callers
keep is a chronicle of all connections (`Shared.Chronicle`): each has a generation of its own, and
all but the last one have been closed, each for a caller that named it. So no connection is closed
twice, and a caller that comes late leaves the next one alone (`closed_once`).
-/

set_option autoImplicit false
set_option relaxedAutoImplicit false

namespace Provenance.Connection

open Relational (Statement World)

variable {W H : Type}

/-! ### One step -/

section Turns

variable {driver : Driver W H} {c c' : Connection W H} {caller caller' : Caller H}

/-- A pass touches the pools, the world and the log, and nothing else of a connection. -/
structure Untouched (c c' : Connection W H) : Prop where
  generation : c'.live.map (·.generation) = c.live.map (·.generation)
  lastGeneration : c'.lastGeneration = c.lastGeneration
  reconnects : c'.reconnects = c.reconnects

theorem untouched_setPool {live : Live H} (hlive : c.live = some live) (query : Query)
    (pool : Pool H) : Untouched c (c.setPool live query pool) :=
  ⟨by rw [hlive]; rfl, rfl, rfl⟩

theorem Turn.untouched (h : Turn driver c caller c' caller') : Untouched c c' := by
  cases h with
  | takes call generation hlive hpool hacquire => exact untouched_setPool hlive _ _
  | misses call generation hlive hpool hacquire =>
    obtain ⟨hgeneration, hlast, hreconnects⟩ := untouched_setPool hlive call.query _
    exact ⟨hgeneration, hlast, hreconnects⟩
  | returns call generation outcome handle hlive hpool => exact untouched_setPool hlive _ _
  | _ => exact ⟨rfl, rfl, rfl⟩

/-- Whoever knows a generation knew it before or has just looked it up. -/
theorem Turn.saw (h : Turn driver c caller c' caller') {generation : Nat}
    (hsaw : caller'.saw = some generation) :
    caller.saw = some generation ∨ c.live.map (·.generation) = some generation := by
  cases h with
  | asks =>
    right
    cases hlive : c.live with
    | none =>
      rw [hlive] at hsaw
      cases hsaw
    | some live =>
      rw [hlive] at hsaw
      simp only [Caller.saw, Option.map_some, Option.getD_some] at hsaw ⊢
      split at hsaw
      · cases hsaw
      · exact hsaw
  | enters call hlive =>
    right
    rw [hlive]
    exact hsaw
  | calls | strands | refused | ends | fails | rests => cases hsaw
  | _ => exact .inl hsaw

/-- A pass starts on the connection that is open. -/
theorem Turn.inside (h : Turn driver c caller c' caller') (hinside : caller'.isInside = true) :
    caller.isInside = true ∧ caller'.saw = caller.saw ∨
      caller'.saw = c.live.map (·.generation) := by
  cases h with
  | enters call hlive =>
    right
    rw [hlive]
    rfl
  | calls | asks | strands | refused | ends | fails | breaks | rests => cases hinside
  | _ => exact .inl ⟨rfl, rfl⟩

end Turns

/-! ### One rebuild -/

section Rebuilds

variable {driver : Driver W H} {c : Connection W H} {wish : Wish}

theorem generation_of_build {target : String} {size generation : Nat} {world world' : W}
    {live : Live H} {events : List Event}
    (h : Live.build driver target size generation world = (.ok live, world', events)) :
    live.generation = generation := by
  unfold Live.build at h
  split at h
  · cases h
  · split at h
    · cases h
      rfl
    · cases h

/-- Opening uses up the next generation, whether it succeeds or not. -/
theorem openNext_generation (driver : Driver W H) (c : Connection W H) :
    (openNext driver c).2.lastGeneration = c.lastGeneration + 1 ∧
      ∀ live, (openNext driver c).2.live = some live →
        live.generation = c.lastGeneration + 1 := by
  unfold openNext
  dsimp only
  split
  · rename_i live world events hbuild
    refine ⟨rfl, fun other hother ↦ ?_⟩
    rw [← Option.some.inj hother]
    exact generation_of_build hbuild
  · refine ⟨rfl, fun other hother ↦ ?_⟩
    cases hother

theorem lastGeneration_disconnect (driver : Driver W H) (c : Connection W H) :
    (disconnect driver c).lastGeneration = c.lastGeneration := by
  unfold disconnect
  split <;> rfl

/-- A wish leaves alone a connection that it does not name; else the connection is closed, if there
was one, and the next one has the next generation. -/
theorem Wish.grant_cases (driver : Driver W H) (c : Connection W H) (wish : Wish) :
    (∃ live, c.live = some live ∧ wish ≠ .current live.generation ∧
        wish.grant driver c = (.ok (), c)) ∨
      (∀ live, c.live = some live → wish = .current live.generation) ∧
        (wish.grant driver c).2.lastGeneration = c.lastGeneration + 1 ∧
        ∀ live, (wish.grant driver c).2.live = some live →
          live.generation = c.lastGeneration + 1 := by
  cases hlive : c.live with
  | none =>
    right
    have hopen : wish.grant driver c = openNext driver c := by
      cases wish <;> simp only [grant, reconnectIfCurrent, reconnectIfDisconnected, hlive]
    rw [hopen]
    exact ⟨fun _ h ↦ (by cases h), openNext_generation driver c⟩
  | some live =>
    by_cases hnamed : wish = .current live.generation
    · right
      have hopen : wish.grant driver c = openNext driver (disconnect driver c) := by
        rw [hnamed]
        simp only [grant, reconnectIfCurrent, hlive, if_true]
      have hnext := openNext_generation driver (disconnect driver c)
      rw [lastGeneration_disconnect] at hnext
      rw [hopen]
      refine ⟨fun other hother ↦ ?_, hnext⟩
      rw [← Option.some.inj hother]
      exact hnamed
    · left
      refine ⟨live, rfl, hnamed, ?_⟩
      cases wish with
      | connected => simp only [grant, reconnectIfDisconnected, hlive]
      | current generation =>
        have hother : ¬ live.generation = generation := fun h ↦ hnamed (h ▸ rfl)
        simp only [grant, reconnectIfCurrent, hlive, if_neg hother]

theorem Caller.saw_of_wish {caller : Caller H} {generation : Nat}
    (h : caller.wish? = some (.current generation)) :
    caller.saw = some generation ∨ generation = 0 := by
  cases caller with
  | broken call seen =>
    cases h
    exact .inl rfl
  | renewing seen =>
    cases h
    by_cases hzero : generation = 0
    · exact .inr hzero
    · exact .inl (if_neg hzero)
  | _ => cases h

theorem Caller.afterGrant_saw (caller : Caller H) (result : Except Error Unit) :
    (caller.afterGrant result).saw = none ∧ (caller.afterGrant result).isInside = false := by
  cases caller with
  | broken call generation => cases result <;> exact ⟨rfl, rfl⟩
  | stranded call => cases result <;> exact ⟨rfl, rfl⟩
  | _ => exact ⟨rfl, rfl⟩

end Rebuilds

/-! ### All steps -/

namespace Shared

variable {driver : Driver W H} {history made : List (Rebuild W H)} {s s' : Shared W H}
  {first : Nat}

/-- The generations of all connections so far, in the order in which they were opened. -/
def generations (first : Nat) (history : List (Rebuild W H)) : List Nat :=
  first :: history.filterMap Rebuild.opened

/-- The generations of the connections that have been closed, in this order. -/
def closings (history : List (Rebuild W H)) : List Nat := history.filterMap Rebuild.closed

theorem generations_concat (first : Nat) (history : List (Rebuild W H)) (r : Rebuild W H) :
    generations first (history ++ [r]) = generations first history ++ r.opened.toList := by
  cases hopened : r.opened <;>
    simp [generations, List.filterMap_append, hopened]

theorem closings_concat (history : List (Rebuild W H)) (r : Rebuild W H) :
    closings (history ++ [r]) = closings history ++ r.closed.toList := by
  cases hclosed : r.closed <;>
    simp [closings, List.filterMap_append, hclosed]

/-- The connections that there have been, and what has become of them. -/
structure Chronicle (first : Nat) (history : List (Rebuild W H)) (s : Shared W H) : Prop where
  ascending : (generations first history).Pairwise (· < ·)
  bounds : ∀ g ∈ generations first history, 0 < g ∧ g ≤ s.connection.lastGeneration
  latest : ∀ g, s.generation? = some g → (generations first history).getLast? = some g
  inOrder : (closings history).Pairwise (· < ·)
  closed : ∀ g, g ∈ closings history ↔ g ∈ generations first history ∧ s.generation? ≠ some g
  saw : ∀ caller ∈ s.callers, ∀ g, caller.saw = some g → g ∈ generations first history
  inside : ∀ caller ∈ s.callers, caller.isInside = true → caller.saw = s.generation?
  spared : ∀ r ∈ history, ∀ live, r.before.live = some live →
    r.wish ≠ .current live.generation → r.after = r.before
  named : ∀ r ∈ history, ∀ g, r.closed = some g → r.wish = .current g
  gone : ∀ r ∈ history, ∀ g, r.wish = .current g →
    g ≤ s.connection.lastGeneration ∧ s.generation? ≠ some g

namespace Chronicle

variable {c c' : Connection W H} {caller caller' : Caller H} {before after : List (Caller H)}

theorem start {c : Connection W H} {live : Live H} (hlive : c.live = some live)
    (hpos : 0 < live.generation) (hlast : live.generation = c.lastGeneration) (callers : Nat) :
    Chronicle live.generation [] (Shared.start c callers) := by
  have hidle : ∀ caller ∈ (Shared.start c callers).callers, caller = .idle := fun caller hcaller ↦
    List.eq_of_mem_replicate hcaller
  have hgeneration : (Shared.start c callers).generation? = some live.generation := by
    rw [generation?, Shared.start, hlive, Option.map_some]
  constructor
  · exact List.pairwise_singleton _ _
  · intro g hg
    rw [List.mem_singleton.mp hg]
    exact ⟨hpos, Nat.le_of_eq hlast⟩
  · intro g hg
    rw [hgeneration] at hg
    exact hg
  · exact List.Pairwise.nil
  · intro g
    refine ⟨nofun, fun ⟨hg, hgone⟩ ↦ absurd ?_ hgone⟩
    rw [hgeneration, List.mem_singleton.mp hg]
  · intro caller hcaller g hsaw
    rw [hidle caller hcaller] at hsaw
    cases hsaw
  · intro caller hcaller hinside
    rw [hidle caller hcaller] at hinside
    cases hinside
  · exact nofun
  · exact nofun
  · exact nofun

/-- The connection that is open is one of those that there have been. -/
theorem mem_generations (h : s.Chronicle first history) {g : Nat} (hg : s.generation? = some g) :
    g ∈ generations first history := List.mem_of_getLast? (h.latest g hg)

theorem turn (h : Chronicle first history ⟨c, before ++ caller :: after⟩)
    (hturn : Turn driver c caller c' caller') :
    Chronicle first history ⟨c', before ++ caller' :: after⟩ := by
  have hmem : caller ∈ before ++ caller :: after := List.mem_append_right before List.mem_cons_self
  have hrest : ∀ other ∈ before ++ caller' :: after,
      other = caller' ∨ other ∈ before ++ caller :: after := by
    intro other hother
    simp only [List.mem_append, List.mem_cons] at hother ⊢
    rcases hother with hbefore | rfl | hafter
    · exact .inr (.inl hbefore)
    · exact .inl rfl
    · exact .inr (.inr (.inr hafter))
  have hsame : generation? ⟨c', before ++ caller' :: after⟩ =
      generation? ⟨c, before ++ caller :: after⟩ := hturn.untouched.generation
  constructor
  · exact h.ascending
  · rw [hturn.untouched.lastGeneration]
    exact h.bounds
  · rw [hsame]
    exact h.latest
  · exact h.inOrder
  · rw [hsame]
    exact h.closed
  · intro other hother g hsaw
    rcases hrest other hother with rfl | hold
    · rcases hturn.saw hsaw with hbefore | hlive
      · exact h.saw caller hmem g hbefore
      · exact h.mem_generations hlive
    · exact h.saw other hold g hsaw
  · intro other hother hinside
    rw [hsame]
    rcases hrest other hother with rfl | hold
    · rcases hturn.inside hinside with ⟨hinside', hsaw⟩ | hlive
      · exact hsaw.trans (h.inside caller hmem hinside')
      · exact hlive
    · exact h.inside other hold hinside
  · exact h.spared
  · exact h.named
  · rw [hsame, hturn.untouched.lastGeneration]
    exact h.gone

/-- After a rebuild nobody is in a pass, and whoever knows a generation knew it before. -/
theorem callers_of_grant (h : Chronicle first history ⟨c, before ++ caller :: after⟩)
    (halone : ∀ other ∈ before ++ after, other.isInside = false) (result : Except Error Unit) :
    ∀ other ∈ before ++ caller.afterGrant result :: after, other.isInside = false ∧
      ∀ g, other.saw = some g → g ∈ generations first history := by
  intro other hother
  obtain ⟨hsaw, hinside⟩ := caller.afterGrant_saw result
  have hcases : other = caller.afterGrant result ∨ other ∈ before ++ after := by
    simp only [List.mem_append, List.mem_cons] at hother ⊢
    rcases hother with hbefore | rfl | hafter
    · exact .inr (.inl hbefore)
    · exact .inl rfl
    · exact .inr (.inr hafter)
  rcases hcases with rfl | hold
  · rw [hsaw]
    exact ⟨hinside, nofun⟩
  · have hmem : other ∈ before ++ caller :: after := by
      simp only [List.mem_append, List.mem_cons] at hold ⊢
      exact hold.imp_right .inr
    exact ⟨halone other hold, h.saw other hmem⟩

/-- What a caller names is no generation that is still to come. -/
theorem named_le (h : Chronicle first history ⟨c, before ++ caller :: after⟩) {wish : Wish}
    (hwish : caller.wish? = some wish) {g : Nat} (hg : wish = .current g) :
    g ≤ c.lastGeneration := by
  subst hg
  have hmem : caller ∈ before ++ caller :: after := List.mem_append_right before List.mem_cons_self
  rcases Caller.saw_of_wish hwish with hsaw | rfl
  · exact (h.bounds g (h.saw caller hmem g hsaw)).2
  · exact Nat.zero_le _

/-- No generation so far lies beyond that of the connection that is open. -/
theorem le_of_live (h : s.Chronicle first history) {g other : Nat}
    (hg : s.generation? = some g) (hother : other ∈ generations first history) : other ≤ g := by
  obtain ⟨rest, hrest⟩ := List.getLast?_eq_some_iff.mp (h.latest g hg)
  have hascending := h.ascending
  rw [hrest] at hother hascending
  rcases List.mem_append.mp hother with hbefore | hlast
  · exact Nat.le_of_lt ((List.pairwise_append.mp hascending).2.2 other hbefore g
      List.mem_cons_self)
  · exact Nat.le_of_eq (List.mem_singleton.mp hlast)

/-- A wish that names another connection than the one that is open changes nothing. -/
theorem spares (h : Chronicle first history ⟨c, before ++ caller :: after⟩) {wish : Wish}
    {live : Live H} (hwish : caller.wish? = some wish) (hlive : c.live = some live)
    (hother : wish ≠ .current live.generation)
    (halone : ∀ other ∈ before ++ after, other.isInside = false) :
    Chronicle first (history ++ [⟨wish, c, c⟩])
      ⟨c, before ++ caller.afterGrant (.ok ()) :: after⟩ := by
  have hopened : Rebuild.opened ⟨wish, c, c⟩ = none := by
    simp only [Rebuild.opened, hlive, Option.bind_some, Option.map_some, if_true]
  have hclosed : Rebuild.closed ⟨wish, c, c⟩ = none := by
    simp only [Rebuild.closed, hlive, Option.bind_some, Option.map_some, if_true]
  have hgenerations : generations first (history ++ [⟨wish, c, c⟩]) =
      generations first history := by
    rw [generations_concat, hopened, Option.toList_none, List.append_nil]
  have hclosings : closings (history ++ [⟨wish, c, c⟩]) = closings history := by
    rw [closings_concat, hclosed, Option.toList_none, List.append_nil]
  have hcallers := h.callers_of_grant halone (.ok ())
  constructor
  · rw [hgenerations]
    exact h.ascending
  · rw [hgenerations]
    exact h.bounds
  · rw [hgenerations]
    exact h.latest
  · rw [hclosings]
    exact h.inOrder
  · rw [hgenerations, hclosings]
    exact h.closed
  · rw [hgenerations]
    exact fun other hmem ↦ (hcallers other hmem).2
  · intro other hmem hinside
    rw [(hcallers other hmem).1] at hinside
    cases hinside
  · refine List.forall_mem_append.mpr ⟨h.spared, List.forall_mem_singleton.mpr ?_⟩
    exact fun _ _ _ ↦ rfl
  · refine List.forall_mem_append.mpr ⟨h.named, List.forall_mem_singleton.mpr ?_⟩
    intro g hg
    rw [hclosed] at hg
    cases hg
  · refine List.forall_mem_append.mpr ⟨h.gone, List.forall_mem_singleton.mpr ?_⟩
    intro g hg
    refine ⟨h.named_le hwish hg, fun hsame ↦ hother ?_⟩
    rw [generation?, hlive, Option.map_some] at hsame
    exact hg.trans (congrArg Wish.current (Option.some.inj hsame).symm)

/-- What was open is what is closed, if it is not open any more. -/
theorem closed_eq {wish : Wish}
    (hgone : ∀ live, c.live = some live → c'.live.map (·.generation) ≠ some live.generation) :
    Rebuild.closed ⟨wish, c, c'⟩ = c.live.map (·.generation) := by
  cases hlive : c.live with
  | none => simp only [Rebuild.closed, hlive, Option.bind_none, Option.map_none]
  | some live =>
    simp only [Rebuild.closed, hlive, Option.bind_some, Option.map_some, if_neg (hgone live hlive)]

theorem opened_eq {wish : Wish}
    (hnew : ∀ live, c'.live = some live → c.live.map (·.generation) ≠ some live.generation) :
    Rebuild.opened ⟨wish, c, c'⟩ = c'.live.map (·.generation) := by
  cases hlive : c'.live with
  | none => simp only [Rebuild.opened, hlive, Option.bind_none, Option.map_none]
  | some live =>
    simp only [Rebuild.opened, hlive, Option.bind_some, Option.map_some, if_neg (hnew live hlive)]

/-- A wish that names the connection that is open, or finds none, closes that one and no other, and
the next one is new. -/
theorem grants (h : Chronicle first history ⟨c, before ++ caller :: after⟩) {wish : Wish}
    (hwish : caller.wish? = some wish) (result : Except Error Unit)
    (hnamed : ∀ live, c.live = some live → wish = .current live.generation)
    (hlast : c'.lastGeneration = c.lastGeneration + 1)
    (hnew : ∀ live, c'.live = some live → live.generation = c.lastGeneration + 1)
    (halone : ∀ other ∈ before ++ after, other.isInside = false) :
    Chronicle first (history ++ [⟨wish, c, c'⟩])
      ⟨c', before ++ caller.afterGrant result :: after⟩ := by
  let s : Shared W H := ⟨c, before ++ caller :: after⟩
  let s' : Shared W H := ⟨c', before ++ caller.afterGrant result :: after⟩
  have hnext : ∀ g, s'.generation? = some g → g = c.lastGeneration + 1 := by
    intro g hg
    obtain ⟨live, hlive, rfl⟩ := Option.map_eq_some_iff.mp hg
    exact hnew live hlive
  have hbound : ∀ g, s.generation? = some g → g ≤ c.lastGeneration := fun g hg ↦
    (h.bounds g (h.mem_generations hg)).2
  have hfresh : ∀ g, g ≤ c.lastGeneration → s'.generation? ≠ some g := by
    intro g hg hsame
    have hg' := hnext g hsame
    omega
  have hopened : Rebuild.opened ⟨wish, c, c'⟩ = s'.generation? := by
    refine opened_eq fun live hlive hsame ↦ ?_
    have hle := hbound _ hsame
    have hlive' := hnew live hlive
    omega
  have hclosed : Rebuild.closed ⟨wish, c, c'⟩ = s.generation? := closed_eq fun live hlive ↦
    hfresh live.generation (hbound live.generation (congrArg (Option.map _) hlive))
  have hgenerations : generations first (history ++ [⟨wish, c, c'⟩]) =
      generations first history ++ s'.generation?.toList := by
    rw [generations_concat, hopened]
  have hclosings : closings (history ++ [⟨wish, c, c'⟩]) =
      closings history ++ s.generation?.toList := by
    rw [closings_concat, hclosed]
  have hcallers := h.callers_of_grant halone result
  constructor
  · rw [hgenerations]
    refine List.pairwise_append.mpr ⟨h.ascending, ?_, fun g hg g' hg' ↦ ?_⟩
    · cases s'.generation? with
      | none => exact List.Pairwise.nil
      | some g => exact List.pairwise_singleton _ _
    · rw [hnext g' (Option.mem_toList.mp hg')]
      exact Nat.lt_succ_of_le (h.bounds g hg).2
  · rw [hgenerations]
    intro g hg
    rcases List.mem_append.mp hg with hold | hopen
    · obtain ⟨hpos, hle⟩ := h.bounds g hold
      exact ⟨hpos, hlast ▸ Nat.le_succ_of_le hle⟩
    · rw [hnext g (Option.mem_toList.mp hopen), ← hlast]
      exact ⟨hlast ▸ Nat.succ_pos _, Nat.le_refl _⟩
  · intro g hg
    rw [hgenerations, show s'.generation? = some g from hg, Option.toList_some,
      List.getLast?_concat]
  · rw [hclosings]
    refine List.pairwise_append.mpr ⟨h.inOrder, ?_, fun g hg g' hg' ↦ ?_⟩
    · cases s.generation? with
      | none => exact List.Pairwise.nil
      | some g => exact List.pairwise_singleton _ _
    · obtain ⟨hgen, hgone⟩ := (h.closed g).mp hg
      have hlive : s.generation? = some g' := Option.mem_toList.mp hg'
      refine Nat.lt_of_le_of_ne (h.le_of_live hlive hgen) fun hsame ↦ hgone ?_
      exact hsame ▸ hlive
  · intro g
    rw [hgenerations, hclosings, List.mem_append, List.mem_append, Option.mem_toList,
      Option.mem_toList]
    constructor
    · intro hg
      have hgen : g ∈ generations first history := by
        rcases hg with hold | hlive
        · exact ((h.closed g).mp hold).1
        · exact h.mem_generations hlive
      exact ⟨.inl hgen, hfresh g (h.bounds g hgen).2⟩
    · rintro ⟨hgen | hopen, hgone⟩
      · by_cases hlive : s.generation? = some g
        · exact .inr hlive
        · exact .inl ((h.closed g).mpr ⟨hgen, hlive⟩)
      · exact absurd hopen hgone
  · rw [hgenerations]
    exact fun other hmem g hsaw ↦ List.mem_append_left _ ((hcallers other hmem).2 g hsaw)
  · intro other hmem hinside
    rw [(hcallers other hmem).1] at hinside
    cases hinside
  · refine List.forall_mem_append.mpr ⟨h.spared, List.forall_mem_singleton.mpr ?_⟩
    exact fun live hlive hother ↦ absurd (hnamed live hlive) hother
  · refine List.forall_mem_append.mpr ⟨h.named, List.forall_mem_singleton.mpr ?_⟩
    intro g hg
    rw [hclosed] at hg
    obtain ⟨live, hlive, rfl⟩ := Option.map_eq_some_iff.mp hg
    exact hnamed live hlive
  · refine List.forall_mem_append.mpr ⟨fun r hr g hg ↦ ?_, List.forall_mem_singleton.mpr ?_⟩
    · have hle := (h.gone r hr g hg).1
      exact ⟨hlast ▸ Nat.le_succ_of_le hle, hfresh g hle⟩
    · intro g hg
      have hle := h.named_le hwish hg
      exact ⟨hlast ▸ Nat.le_succ_of_le hle, hfresh g hle⟩

theorem step (h : s.Chronicle first history) (hstep : Step driver s made s') :
    s'.Chronicle first (history ++ made) := by
  cases hstep with
  | turn before after hturn =>
    rw [List.append_nil]
    exact h.turn hturn
  | @rebuilds caller wish c before after hwish halone =>
    rcases wish.grant_cases driver c with ⟨live, hlive, hother, hgrant⟩ | ⟨hnamed, hlast, hnew⟩
    · rw [hgrant]
      exact h.spares hwish hlive hother halone
    · exact h.grants hwish _ hnamed hlast hnew halone

theorem leads {start : Shared W H} (h : start.Chronicle first [])
    (hleads : Leads driver start history s) : s.Chronicle first history := by
  induction hleads with
  | refl => exact h
  | step _ hstep ih => exact ih.step hstep

end Chronicle

/-- However many callers run requests on a connection and reconnect it, in whatever order their
steps come and whatever connecting and preparing come to: the generations of the connections
increase, and the one that is open is the last of them. Whoever has seen a generation has seen it on
one of these connections, and whoever is in a pass is so on the one that is open. A rebuild closes
an open connection only if it names its generation, and one that names another leaves everything as
it was: the connection, its pools and the counters. Once a connection has been named it is closed,
and by one rebuild only. -/
theorem closed_once {target : String} {size : Nat} {world : W} {c : Connection W H}
    (hstart : Connection.start driver target size world = (.ok (), c)) {callers : Nat}
    (h : Leads driver (start c callers) history s) :
    (generations 1 history).Pairwise (· < ·) ∧
      (∀ g, s.generation? = some g → (generations 1 history).getLast? = some g) ∧
      (∀ caller ∈ s.callers, ∀ g, caller.saw = some g → g ∈ generations 1 history) ∧
      (∀ caller ∈ s.callers, caller.isInside = true → caller.saw = s.generation?) ∧
      (∀ r ∈ history, ∀ g, r.closed = some g → r.wish = .current g) ∧
      (∀ r ∈ history, ∀ live, r.before.live = some live →
        r.wish ≠ .current live.generation → r.after = r.before) ∧
      (closings history).Nodup ∧
      ∀ r ∈ history, ∀ g ∈ generations 1 history, r.wish = .current g →
        s.generation? ≠ some g ∧ g ∈ closings history := by
  have hfirst : ∃ live, c.live = some live ∧ live.generation = 1 ∧ c.lastGeneration = 1 := by
    unfold Connection.start at hstart
    split at hstart
    · cases hstart
    · split at hstart
      · rename_i live world' events hbuild
        cases hstart
        exact ⟨live, rfl, generation_of_build hbuild, rfl⟩
      · cases hstart
  obtain ⟨live, hlive, hone, hlast⟩ := hfirst
  have hchronicle : s.Chronicle live.generation history :=
    (Chronicle.start hlive (by omega) (by omega) callers).leads h
  rw [hone] at hchronicle
  have hnodup : (closings history).Nodup := hchronicle.inOrder.imp fun hlt ↦ Nat.ne_of_lt hlt
  refine ⟨hchronicle.ascending, hchronicle.latest, hchronicle.saw, hchronicle.inside,
    hchronicle.named, hchronicle.spared, hnodup, fun r hr g hg hwish ↦ ?_⟩
  have hgone := (hchronicle.gone r hr g hwish).2
  exact ⟨hgone, (hchronicle.closed g).mpr ⟨hg, hgone⟩⟩

/-! ### Two callers and one dropped link -/

/-- The wish of one caller and then that of the other one is granted. -/
theorem Leads.both {start : Shared W H} {c : Connection W H} {caller caller' : Caller H}
    {wish wish' : Wish} (h : Leads driver start history ⟨c, [caller, caller']⟩)
    (hwish : caller.wish? = some wish) (hwish' : caller'.wish? = some wish')
    (houtside : caller'.isInside = false) :
    ∃ r r' callers, r = ⟨wish, c, (wish.grant driver c).2⟩ ∧
      r' = ⟨wish', r.after, (wish'.grant driver r.after).2⟩ ∧
      Leads driver start (history ++ [r] ++ [r']) ⟨r'.after, callers⟩ := by
  have hfirst := h.step (.rebuilds c [] [caller'] hwish (List.forall_mem_singleton.mpr houtside))
  exact ⟨_, _, _, rfl, rfl, hfirst.step (.rebuilds _ [_] [] hwish'
    (List.forall_mem_singleton.mpr (Caller.afterGrant_saw _ _).2))⟩

/-- A listing of all objects, which may be tried again three times. -/
def listing : Call :=
  ⟨List ObjectInfo, Request.list .getAllObjects [] (Request.objectRow ⟨4095, ⟨0, none⟩⟩), 3, 0⟩

/-- A connection to the named file with one handle per query, on which the next two binds fail. -/
def failing : Connection (Faulty World) Statement :=
  (Connection.start FileSite.named.driver FileSite.named.text 1 (Faulty.replan
    (fun point ↦ if point = .bind then [FaultPlan.linkFailure, FaultPlan.linkFailure] else [])
    FileSite.untouched)).2

/-- The connection after a pass that meets a dropped link. -/
def afterFailure (c : Connection (Faulty World) Statement) :
    Connection (Faulty World) Statement :=
  match attempt FileSite.named.driver listing.request c with
  | .failed _ step _ c =>
    { c with log := c.log ++ [.linkFailed listing.query.name step (listing.retries + 1)] }
  | _ => c

/-- Both callers meet the dropped link of the first connection. The one that comes first has it
closed, and the other one leaves the second connection as it is. -/
theorem late_caller_spares :
    ∃ r r' s, Leads FileSite.named.driver (start failing 2) [r, r'] s ∧
      r.wish = .current 1 ∧ r'.wish = .current 1 ∧ r'.after = r'.before ∧
      s.generation? = some 2 ∧ 1 ∈ closings [r, r'] := by
  have hfirst : Leads FileSite.named.driver (start failing 2) []
      ⟨afterFailure failing, [] ++ .broken listing.next 1 :: [.idle]⟩ := by
    have hidle : Leads FileSite.named.driver (start failing 2) []
        ⟨failing, [] ++ .idle :: [.idle]⟩ := .refl
    refine leads_broken hidle rfl ?_ (by decide) rfl
    intro live pool hlive hpool
    cases hlive
    cases hpool
    exact nofun
  have hsecond : Leads FileSite.named.driver (start failing 2) []
      ⟨afterFailure (afterFailure failing),
        [.broken listing.next 1] ++ .broken listing.next 1 :: []⟩ := by
    refine leads_broken hfirst rfl ?_ (by decide) rfl
    intro live pool hlive hpool
    cases hlive
    cases hpool
    exact nofun
  obtain ⟨r, r', callers, hr, hr', hleads⟩ := hsecond.both rfl rfl rfl
  have hstart : Connection.start FileSite.named.driver FileSite.named.text 1 (Faulty.replan
      (fun point ↦ if point = .bind then [FaultPlan.linkFailure, FaultPlan.linkFailure] else [])
      FileSite.untouched) = (.ok (), failing) := rfl
  obtain ⟨-, -, -, -, -, hothers, -, hnamed⟩ := closed_once hstart hleads
  have htwo : r'.before.live.map (·.generation) = some 2 := by
    rw [hr', hr]
    decide +kernel
  obtain ⟨live, hlive, hgeneration⟩ := Option.map_eq_some_iff.mp htwo
  have hother : r'.wish ≠ .current live.generation := by
    rw [hgeneration, hr']
    exact nofun
  have hspared : r'.after = r'.before :=
    hothers r' (List.mem_cons_of_mem r List.mem_cons_self) live hlive hother
  have hnow : r'.after.live.map (·.generation) = some 2 := by rw [hspared, htwo]
  have hone : 1 ∈ generations 1 [r, r'] := List.mem_cons_self
  have hwish : r.wish = .current 1 := by rw [hr]
  have hwish' : r'.wish = .current 1 := by rw [hr']
  exact ⟨r, r', _, hleads, hwish, hwish', hspared, hnow,
    (hnamed r List.mem_cons_self 1 hone hwish).2⟩

end Shared

end Provenance.Connection
