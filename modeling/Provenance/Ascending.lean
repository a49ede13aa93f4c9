/-!
Lists in ascending order without repeats: sets of numbers, and tables whose entries are found by a
number. `mem_ofList` and `pairwise_ofList` say what a set holds and in which order; `get?_put` says
what a table holds.
-/

set_option autoImplicit false
set_option relaxedAutoImplicit false

namespace Provenance.Ascending

variable {α : Type}

/-- Inserts a number into an ascending list that holds each number once. -/
def insert (n : Nat) : List Nat → List Nat
  | [] => [n]
  | other :: rest =>
    if n < other then n :: other :: rest
    else if n = other then other :: rest
    else other :: insert n rest

/-- The numbers of a list in ascending order, each once. -/
def ofList (numbers : List Nat) : List Nat := numbers.foldr insert []

/-- Puts an entry into an ascending table, in place of one with the same key. -/
def put (key : Nat) (value : α) : List (Nat × α) → List (Nat × α)
  | [] => [(key, value)]
  | entry :: rest =>
    if key < entry.1 then (key, value) :: entry :: rest
    else if key = entry.1 then (key, value) :: rest
    else entry :: put key value rest

def get? (key : Nat) (table : List (Nat × α)) : Option α :=
  (table.find? fun entry ↦ entry.1 == key).map (·.2)

def erase (key : Nat) (table : List (Nat × α)) : List (Nat × α) :=
  table.filter fun entry ↦ entry.1 != key

@[simp] theorem mem_insert {n m : Nat} {numbers : List Nat} :
    m ∈ insert n numbers ↔ m = n ∨ m ∈ numbers := by
  induction numbers with
  | nil => simp [insert]
  | cons other rest ih =>
    unfold insert
    by_cases hlt : n < other
    · simp [hlt]
    · by_cases heq : n = other
      · subst heq
        simp
      · simp only [if_neg hlt, if_neg heq, List.mem_cons, ih]
        exact or_left_comm

theorem pairwise_insert {n : Nat} {numbers : List Nat} (h : numbers.Pairwise (· < ·)) :
    (insert n numbers).Pairwise (· < ·) := by
  induction numbers with
  | nil => simp [insert]
  | cons other rest ih =>
    have hrest := List.pairwise_cons.1 h
    unfold insert
    by_cases hlt : n < other
    · rw [if_pos hlt]
      refine List.pairwise_cons.2 ⟨fun m hm ↦ ?_, h⟩
      rcases List.mem_cons.1 hm with rfl | hm
      · exact hlt
      · exact Nat.lt_trans hlt (hrest.1 m hm)
    · by_cases heq : n = other
      · simpa [hlt, heq] using h
      · rw [if_neg hlt, if_neg heq]
        refine List.pairwise_cons.2 ⟨fun m hm ↦ ?_, ih hrest.2⟩
        rcases mem_insert.1 hm with rfl | hm
        · omega
        · exact hrest.1 m hm

@[simp] theorem mem_ofList {m : Nat} {numbers : List Nat} : m ∈ ofList numbers ↔ m ∈ numbers := by
  induction numbers with
  | nil => simp [ofList]
  | cons n rest ih =>
    have hcons : ofList (n :: rest) = insert n (ofList rest) := rfl
    rw [hcons, mem_insert, ih, List.mem_cons]

theorem pairwise_ofList (numbers : List Nat) : (ofList numbers).Pairwise (· < ·) := by
  induction numbers with
  | nil => simp [ofList]
  | cons n rest ih => exact pairwise_insert ih

theorem get?_cons (other : Nat) (entry : Nat × α) (rest : List (Nat × α)) :
    get? other (entry :: rest) = if entry.1 = other then some entry.2 else get? other rest := by
  by_cases h : entry.1 = other <;> simp [get?, h]

theorem get?_put (key other : Nat) (value : α) (table : List (Nat × α)) :
    get? other (put key value table) = if key = other then some value else get? other table := by
  induction table with
  | nil => rw [put, get?_cons]
  | cons entry rest ih =>
    unfold put
    by_cases hlt : key < entry.1
    · rw [if_pos hlt, get?_cons]
    · by_cases heq : key = entry.1
      · rw [if_neg hlt, if_pos heq, get?_cons, get?_cons, heq]
        by_cases h : entry.1 = other <;> simp [h]
      · rw [if_neg hlt, if_neg heq, get?_cons, get?_cons, ih]
        by_cases h : entry.1 = other
        · have hne : ¬key = other := fun hk ↦ heq (hk.trans h.symm)
          simp [h, hne]
        · simp [h]

/-! ### Tables -/

variable {key other : Nat} {value : α} {table : List (Nat × α)} {entry : Nat × α}

/-- The keys of a table. -/
def keys (table : List (Nat × α)) : List Nat := table.map (·.1)

theorem mem_keys : key ∈ keys table ↔ ∃ value, (key, value) ∈ table := by
  simp only [keys, List.mem_map, Prod.exists, exists_and_right, exists_eq_right]

theorem put_of_forall_lt (h : ∀ entry ∈ table, key < entry.1) :
    put key value table = (key, value) :: table := by
  cases table with
  | nil => rfl
  | cons entry rest => rw [put, if_pos (h entry List.mem_cons_self)]

/-- Of a table in ascending order everything follows its first entry. -/
theorem lt_of_mem_rest {rest : List (Nat × α)} (h : (keys (entry :: rest)).Pairwise (· < ·)) :
    ∀ later ∈ rest, entry.1 < later.1 := fun _ hlater ↦
  (List.pairwise_cons.mp h).1 _ (List.mem_map_of_mem hlater)

theorem eq_or_mem_of_mem_put (h : entry ∈ put key value table) :
    entry = (key, value) ∨ entry ∈ table := by
  induction table with
  | nil => exact .inl (List.mem_singleton.mp h)
  | cons first rest ih =>
    unfold put at h
    by_cases hlt : key < first.1
    · rw [if_pos hlt] at h
      exact List.mem_cons.mp h
    · by_cases heq : key = first.1
      · rw [if_neg hlt, if_pos heq] at h
        exact (List.mem_cons.mp h).imp_right (List.mem_cons_of_mem _)
      · rw [if_neg hlt, if_neg heq] at h
        rcases List.mem_cons.mp h with rfl | h
        · exact .inr List.mem_cons_self
        · exact (ih h).imp_right (List.mem_cons_of_mem _)

theorem mem_put (h : (keys table).Pairwise (· < ·)) :
    entry ∈ put key value table ↔ entry = (key, value) ∨ entry ∈ table ∧ entry.1 ≠ key := by
  induction table with
  | nil => simp [put]
  | cons first rest ih =>
    have hrest := (List.pairwise_cons.mp h).2
    have hfirst := lt_of_mem_rest h
    unfold put
    by_cases hlt : key < first.1
    · rw [if_pos hlt, List.mem_cons]
      refine or_congr_right ⟨fun hmem ↦ ⟨hmem, ?_⟩, And.left⟩
      rcases List.mem_cons.mp hmem with rfl | hmem
      · omega
      · have hlater := hfirst entry hmem
        omega
    · by_cases heq : key = first.1
      · rw [if_neg hlt, if_pos heq, List.mem_cons, List.mem_cons]
        refine or_congr_right ⟨fun hmem ↦ ⟨.inr hmem, ?_⟩, ?_⟩
        · have hlater := hfirst entry hmem
          omega
        · rintro ⟨rfl | hmem, hne⟩
          · exact absurd heq.symm hne
          · exact hmem
      · rw [if_neg hlt, if_neg heq, List.mem_cons, ih hrest, List.mem_cons]
        constructor
        · rintro (rfl | hnew | ⟨hmem, hne⟩)
          · exact .inr ⟨.inl rfl, fun hsame ↦ heq hsame.symm⟩
          · exact .inl hnew
          · exact .inr ⟨.inr hmem, hne⟩
        · rintro (hnew | ⟨rfl | hmem, hne⟩)
          · exact .inr (.inl hnew)
          · exact .inl rfl
          · exact .inr (.inr ⟨hmem, hne⟩)

theorem mem_keys_put (h : (keys table).Pairwise (· < ·)) :
    other ∈ keys (put key value table) ↔ other = key ∨ other ∈ keys table := by
  by_cases hsame : other = key
  · simp [mem_keys, mem_put h, hsame]
  · simp [mem_keys, mem_put h, hsame]

theorem pairwise_put (h : (keys table).Pairwise (· < ·)) :
    (keys (put key value table)).Pairwise (· < ·) := by
  induction table with
  | nil => exact List.pairwise_singleton _ _
  | cons first rest ih =>
    have hrest := (List.pairwise_cons.mp h).2
    have hfirst := lt_of_mem_rest h
    unfold put
    by_cases hlt : key < first.1
    · rw [if_pos hlt]
      refine List.pairwise_cons.mpr ⟨fun later hlater ↦ ?_, h⟩
      rcases List.mem_cons.mp hlater with rfl | hlater
      · exact hlt
      · exact Nat.lt_trans hlt ((List.pairwise_cons.mp h).1 later hlater)
    · by_cases heq : key = first.1
      · rw [if_neg hlt, if_pos heq]
        exact List.pairwise_cons.mpr ⟨heq ▸ (List.pairwise_cons.mp h).1, hrest⟩
      · rw [if_neg hlt, if_neg heq]
        refine List.pairwise_cons.mpr ⟨fun later hlater ↦ ?_, ih hrest⟩
        rcases (mem_keys_put hrest).mp hlater with rfl | hlater
        · exact Nat.lt_of_le_of_ne (Nat.not_lt.mp hlt) (Ne.symm heq)
        · exact (List.pairwise_cons.mp h).1 later hlater

theorem length_put (h : key ∉ keys table) : (put key value table).length = table.length + 1 := by
  induction table with
  | nil => rfl
  | cons first rest ih =>
    rw [keys, List.map_cons, List.mem_cons, not_or] at h
    unfold put
    by_cases hlt : key < first.1
    · rw [if_pos hlt, List.length_cons]
    · rw [if_neg hlt, if_neg h.1, List.length_cons, List.length_cons, ih h.2]

theorem get?_eq_none (h : key ∉ keys table) : get? key table = none := by
  induction table with
  | nil => rfl
  | cons first rest ih =>
    rw [keys, List.map_cons, List.mem_cons, not_or] at h
    rw [get?_cons, if_neg (Ne.symm h.1), ih h.2]

theorem get?_eq_some (h : (keys table).Pairwise (· < ·)) (hmem : (key, value) ∈ table) :
    get? key table = some value := by
  induction table with
  | nil => cases hmem
  | cons first rest ih =>
    rw [get?_cons]
    rcases List.mem_cons.mp hmem with rfl | hmem
    · rw [if_pos rfl]
    · have hlater := lt_of_mem_rest h (key, value) hmem
      rw [if_neg (Nat.ne_of_lt hlater), ih (List.pairwise_cons.mp h).2 hmem]

theorem mem_erase : entry ∈ erase key table ↔ entry ∈ table ∧ entry.1 ≠ key := by
  simp only [erase, List.mem_filter, bne_iff_ne]

theorem erase_put (hne : key ≠ other) (h : (keys table).Pairwise (· < ·)) :
    erase other (put key value table) = put key value (erase other table) := by
  induction table with
  | nil => simp [put, erase, hne]
  | cons first rest ih =>
    have hrest := (List.pairwise_cons.mp h).2
    have hfirst := lt_of_mem_rest h
    rw [put]
    by_cases hlt : key < first.1
    · have hlater : ∀ entry ∈ erase other (first :: rest), key < entry.1 := by
        intro entry hentry
        rcases List.mem_cons.mp (mem_erase.mp hentry).1 with rfl | hmem
        · exact hlt
        · exact Nat.lt_trans hlt (hfirst entry hmem)
      rw [if_pos hlt, put_of_forall_lt hlater]
      simp [erase, hne]
    · by_cases heq : key = first.1
      · have hkept : first.1 ≠ other := heq ▸ hne
        simp [erase, put, hkept, heq]
      · rw [if_neg hlt, if_neg heq]
        by_cases hkept : first.1 = other
        · have hboth : ∀ rest, erase other (first :: rest) = erase other rest := by
            intro rest
            simp [erase, hkept]
          rw [hboth, hboth, ih hrest]
        · have hboth : ∀ rest, erase other (first :: rest) = first :: erase other rest := by
            intro rest
            simp [erase, hkept]
          rw [hboth, hboth, ih hrest, put, if_neg hlt, if_neg heq]

theorem map_put {β : Type} (f : α → β) :
    (put key value table).map (fun entry ↦ (entry.1, f entry.2)) =
      put key (f value) (table.map fun entry ↦ (entry.1, f entry.2)) := by
  induction table with
  | nil => rfl
  | cons first rest ih =>
    simp only [List.map_cons, put]
    by_cases hlt : key < first.1
    · rw [if_pos hlt, if_pos hlt, List.map_cons, List.map_cons]
    · by_cases heq : key = first.1
      · rw [if_neg hlt, if_neg hlt, if_pos heq, if_pos heq, List.map_cons]
      · rw [if_neg hlt, if_neg hlt, if_neg heq, if_neg heq, List.map_cons, ih]

theorem mem_foldr_insert {m : Nat} {more numbers : List Nat} :
    m ∈ more.foldr insert numbers ↔ m ∈ more ∨ m ∈ numbers := by
  induction more with
  | nil => simp
  | cons n rest ih => rw [List.foldr_cons, mem_insert, ih, List.mem_cons, or_assoc]

theorem pairwise_foldr_insert {more numbers : List Nat} (h : numbers.Pairwise (· < ·)) :
    (more.foldr insert numbers).Pairwise (· < ·) := by
  induction more with
  | nil => exact h
  | cons n rest ih => exact pairwise_insert ih

/-- A set inside a message. -/
def debug (numbers : List Nat) : String :=
  "\x7b" ++ ", ".intercalate (numbers.map toString) ++ "\x7d"

end Provenance.Ascending
