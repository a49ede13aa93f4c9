import Provenance.Text.Truncate

/-!
Texts that are cut to a number of bytes. The walk back from the limit stops at the last place where
no character is split (`le_of_lastBoundary?`). What is left is a run of whole characters from the
start of the text that fits, and no longer run does (`isCut_truncate`). There is only one such run:
it is the text itself if all of it fits, it leaves at most three bytes unused if not, and cutting
twice is cutting once to the smaller limit.
-/

set_option autoImplicit false
set_option relaxedAutoImplicit false

namespace Provenance.Text

variable {limit limit' index : Nat} {text cut cut' other : String}

/-- A run of leading characters parts a text in two. -/
theorem exists_eq_append (h : other.toList <+: text.toList) : ∃ rest, text = other ++ rest := by
  obtain ⟨rest, hrest⟩ := h
  refine ⟨String.ofList rest, String.toList_inj.mp ?_⟩
  rw [String.toList_append, String.toList_ofList, hrest]

theorem size_le_of_leads (h : other.toList <+: text.toList) :
    other.utf8ByteSize ≤ text.utf8ByteSize := by
  obtain ⟨rest, rfl⟩ := exists_eq_append h
  rw [String.utf8ByteSize_append]
  exact Nat.le_add_right _ _

/-- A run of leading characters that needs no fewer bytes than the text is all of it. -/
theorem eq_of_leads (h : other.toList <+: text.toList)
    (hle : text.utf8ByteSize ≤ other.utf8ByteSize) : other = text := by
  obtain ⟨rest, rfl⟩ := exists_eq_append h
  rw [String.utf8ByteSize_append] at hle
  have hrest : rest = "" := String.utf8ByteSize_eq_zero_iff.mp (by omega)
  rw [hrest, String.append_empty]

/-- The longest run of leading characters of a text whose encoding fits into a number of bytes. -/
structure IsCut (limit : Nat) (text cut : String) : Prop where
  leads : cut.toList <+: text.toList
  fits : cut.utf8ByteSize ≤ limit
  longest : ∀ other : String, other.toList <+: text.toList → other.utf8ByteSize ≤ limit →
    other.toList <+: cut.toList

namespace IsCut

theorem unique (h : IsCut limit text cut) (h' : IsCut limit text cut') : cut = cut' := by
  have hle := h'.longest cut h.leads h.fits
  have hge := h.longest cut' h'.leads h'.fits
  exact String.toList_inj.mp (hle.eq_of_length_le hge.length_le)

theorem refl_of_le (h : text.utf8ByteSize ≤ limit) : IsCut limit text text :=
  ⟨List.prefix_rfl, h, fun _ hleads _ ↦ hleads⟩

/-- A text that fits is left whole. -/
theorem eq_of_le (h : IsCut limit text cut) (hle : text.utf8ByteSize ≤ limit) : cut = text :=
  h.unique (refl_of_le hle)

/-- Where a text is cut, the next character would not have fitted, and none needs more than four
bytes. -/
theorem le_size_add (h : IsCut limit text cut) (hlt : limit < text.utf8ByteSize) :
    limit ≤ cut.utf8ByteSize + 3 := by
  obtain ⟨rest, hrest⟩ := h.leads
  cases rest with
  | nil =>
    rw [List.append_nil, String.toList_inj] at hrest
    have hfits := h.fits
    rw [hrest] at hfits
    omega
  | cons c rest =>
    refine Nat.le_of_not_lt fun hroom ↦ ?_
    have hleads : (cut.push c).toList <+: text.toList :=
      ⟨rest, by rw [String.toList_push, List.append_assoc, List.singleton_append, hrest]⟩
    have hfits : (cut.push c).utf8ByteSize ≤ limit := by
      have hsize := c.utf8Size_le_four
      rw [String.utf8ByteSize_push]
      omega
    have hlonger := (h.longest (cut.push c) hleads hfits).length_le
    rw [String.toList_push, List.length_append, List.length_singleton] at hlonger
    omega

/-- What fits into the smaller of two limits survives both cuts. -/
theorem trans (h : IsCut limit text cut) (h' : IsCut limit' cut cut') :
    IsCut (min limit limit') text cut' where
  leads := h'.leads.trans h.leads
  fits := Nat.le_min.mpr ⟨Nat.le_trans (size_le_of_leads h'.leads) h.fits, h'.fits⟩
  longest other hleads hfits := by
    obtain ⟨hfits, hfits'⟩ := Nat.le_min.mp hfits
    exact h'.longest other (h.longest other hleads hfits) hfits'

end IsCut

section

variable {stop : text.Pos}

theorem offset_of_boundary? (h : boundary? text index = some stop) :
    stop.offset.byteIdx = index := by
  unfold boundary? at h
  split at h
  · cases h
    rfl
  · cases h

theorem boundary?_offset (stop : text.Pos) : boundary? text stop.offset.byteIdx = some stop :=
  dif_pos stop.isValid

/-- The walk back stops at the last place that is not behind its start. -/
theorem le_of_lastBoundary? (h : lastBoundary? text index = some stop) :
    stop.offset.byteIdx ≤ index ∧
      ∀ other : text.Pos, other.offset.byteIdx ≤ index →
        other.offset.byteIdx ≤ stop.offset.byteIdx := by
  induction index with
  | zero =>
    have hstop := offset_of_boundary? h
    rw [hstop]
    exact ⟨Nat.le_refl 0, fun _ hother ↦ hother⟩
  | succ index ih =>
    rw [lastBoundary?, Option.orElse_eq_orElse, Option.orElse_eq_or, Option.or_eq_some_iff] at h
    obtain hhere | ⟨hnone, hback⟩ := h
    · rw [offset_of_boundary? hhere]
      exact ⟨Nat.le_refl _, fun _ hother ↦ hother⟩
    · obtain ⟨hle, hlast⟩ := ih hback
      refine ⟨Nat.le_succ_of_le hle, fun other hother ↦ ?_⟩
      -- a place at the byte that is left behind would have ended the walk there
      have hne : other.offset.byteIdx ≠ index + 1 := by
        intro heq
        rw [← heq, boundary?_offset] at hnone
        cases hnone
      exact hlast other (by omega)

theorem size_sliceTo (stop : text.Pos) :
    (text.sliceTo stop).copy.utf8ByteSize = stop.offset.byteIdx := by
  rw [stop.splits.offset_eq_rawEndPos, String.byteIdx_rawEndPos]

/-- What stands in front of the place where the walk stops is the longest run that fits. -/
theorem isCut_sliceTo (h : lastBoundary? text limit = some stop) :
    IsCut limit text (text.sliceTo stop).copy := by
  obtain ⟨hle, hlast⟩ := le_of_lastBoundary? h
  have hleads : (text.sliceTo stop).copy.toList <+: text.toList := by
    refine ⟨(text.sliceFrom stop).copy.toList, ?_⟩
    rw [← String.toList_append, ← stop.splits.eq_append]
  refine ⟨hleads, by rwa [size_sliceTo], fun other hother hfits ↦ ?_⟩
  obtain ⟨rest, hrest⟩ := exists_eq_append hother
  have hvalid : other.rawEndPos.IsValid text :=
    String.Pos.Raw.isValid_iff_exists_append.mpr ⟨other, rest, hrest, rfl⟩
  have hshorter : other.utf8ByteSize ≤ (text.sliceTo stop).copy.utf8ByteSize := by
    rw [size_sliceTo]
    exact hlast ⟨other.rawEndPos, hvalid⟩ hfits
  obtain hwithin | hbeyond := List.prefix_or_prefix_of_prefix hother hleads
  · exact hwithin
  · have hall := eq_of_leads hbeyond hshorter
    exact hall ▸ List.prefix_rfl

end

/-- Truncating leaves the longest run of whole characters that fits. -/
theorem isCut_truncate (limit : Nat) (text : String) : IsCut limit text (truncate limit text) := by
  unfold truncate
  by_cases hwhole : text.utf8ByteSize ≤ limit
  · rw [if_pos hwhole]
    exact .refl_of_le hwhole
  · rw [if_neg hwhole]
    exact isCut_sliceTo (Option.some_get _).symm

/-- Truncating to a limit walks back from it to a place in the text, never past the first byte, and
leaves what stands in front of that place. This is the longest run of leading characters that fits:
a text that fits is left as it is, and with a longer one at most three bytes of the limit stay
unused. Truncating once more is truncating to the smaller limit. -/
theorem truncate_to_longest_fitting (limit : Nat) (text : String) :
    (∃ stop, lastBoundary? text limit = some stop ∧
      truncate limit text = (text.sliceTo stop).copy) ∧
      IsCut limit text (truncate limit text) ∧
      (text.utf8ByteSize ≤ limit → truncate limit text = text) ∧
      (limit < text.utf8ByteSize → limit ≤ (truncate limit text).utf8ByteSize + 3) ∧
      ∀ further, truncate further (truncate limit text) = truncate (min limit further) text := by
  have hcut := isCut_truncate limit text
  refine ⟨?_, hcut, hcut.eq_of_le, hcut.le_size_add, fun further ↦ ?_⟩
  · obtain ⟨stop, hstop⟩ := Option.isSome_iff_exists.mp (isSome_lastBoundary? text limit)
    exact ⟨stop, hstop, hcut.unique (isCut_sliceTo hstop)⟩
  · have htwice := hcut.trans (isCut_truncate further (truncate limit text))
    exact htwice.unique (isCut_truncate (min limit further) text)

/-- A character of four bytes that does not fit leaves three bytes unused. -/
theorem wide_character_left_out :
    4 < "a𝒫".utf8ByteSize ∧ 4 ≤ (truncate 4 "a𝒫").utf8ByteSize + 3 ∧
      "a".utf8ByteSize ≤ 4 ∧ truncate 4 "a" = "a" := by
  obtain ⟨-, -, -, hroom, -⟩ := truncate_to_longest_fitting 4 "a𝒫"
  obtain ⟨-, -, hwhole, -⟩ := truncate_to_longest_fitting 4 "a"
  exact ⟨by decide, hroom (by decide), by decide, hwhole (by decide)⟩

end Provenance.Text
