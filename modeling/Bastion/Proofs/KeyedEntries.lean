import Bastion.Keyed
import Mathlib.Data.List.Nodup

set_option autoImplicit false

namespace Bastion.Keyed

variable {κ α β : Type} [DecidableEq κ]

def names (entries : List (κ × α)) : List κ := entries.map Prod.fst

theorem names_put (entries : List (κ × α)) (key : κ) (value : α) :
    names (put entries key value) =
      if key ∈ names entries then names entries else names entries ++ [key] := by
  induction entries with
  | nil => rfl
  | cons entry rest ih =>
    by_cases same : entry.1 = key
    · subst same
      simp [put, names]
    · unfold names at ih
      simp only [put, same, ↓reduceIte, names, List.map_cons, ih, List.mem_cons, Ne.symm same,
        false_or]
      split <;> rfl

theorem names_erase (entries : List (κ × α)) (key : κ) :
    names (erase entries key) = (names entries).filter (· ≠ key) := by
  unfold names erase
  rw [List.filter_map]
  rfl

theorem nodup_put {entries : List (κ × α)} (distinct : (names entries).Nodup) (key : κ) (value : α) :
    (names (put entries key value)).Nodup := by
  rw [names_put]
  split
  · exact distinct
  · rename_i missing
    exact List.Nodup.append distinct (List.nodup_singleton key)
      (List.disjoint_singleton.2 missing)

theorem mem_of_mem_put {entries : List (κ × α)} {key : κ} {value : α} {entry : κ × α}
    (member : entry ∈ put entries key value) : entry ∈ entries ∨ entry = (key, value) := by
  induction entries with
  | nil => exact .inr (List.mem_singleton.1 member)
  | cons first rest ih =>
    by_cases same : first.1 = key
    · subst same
      simp only [put, ↓reduceIte, List.mem_cons] at member
      rcases member with rfl | later
      · exact .inr rfl
      · exact .inl (List.mem_cons_of_mem _ later)
    · simp only [put, same, ↓reduceIte, List.mem_cons] at member
      rcases member with rfl | later
      · exact .inl List.mem_cons_self
      · exact (ih later).imp_left (List.mem_cons_of_mem _)

def mapValues (change : α → β) (entries : List (κ × α)) : List (κ × β) :=
  entries.map fun entry => (entry.1, change entry.2)

theorem put_mapValues (change : α → β) (entries : List (κ × α)) (key : κ) (value : α) :
    put (mapValues change entries) key (change value) = mapValues change (put entries key value) := by
  induction entries with
  | nil => rfl
  | cons entry rest ih =>
    unfold mapValues at ih
    by_cases same : entry.1 = key
    · simp [mapValues, put, same]
    · simp [mapValues, put, same, ih]

theorem get?_mapValues (change : α → β) (entries : List (κ × α)) (key : κ) :
    get? (mapValues change entries) key = (get? entries key).map change := by
  induction entries with
  | nil => rfl
  | cons entry rest ih =>
    unfold mapValues at ih
    by_cases same : entry.1 = key
    · simp [mapValues, get?, same]
    · simp [mapValues, get?, same, ih]

theorem get?_eq_none {entries : List (κ × α)} {key : κ} :
    get? entries key = none ↔ key ∉ names entries := by
  induction entries with
  | nil => simp [get?, names]
  | cons entry rest ih =>
    unfold names at ih
    by_cases same : entry.1 = key
    · simp [get?, names, same]
    · simp [get?, names, same, Ne.symm same, ih]

def collectOnto (kept entries : List (κ × α)) : List (κ × α) :=
  entries.foldl (fun kept entry => put kept entry.1 entry.2) kept

theorem nodup_collectOnto {kept : List (κ × α)} (distinct : (names kept).Nodup)
    (entries : List (κ × α)) : (names (collectOnto kept entries)).Nodup := by
  induction entries generalizing kept with
  | nil => exact distinct
  | cons entry rest ih => exact ih (nodup_put distinct _ _)

theorem nodup_collect (entries : List (κ × α)) : (names (collect entries)).Nodup := by
  have none : (names ([] : List (κ × α))).Nodup := List.nodup_nil
  exact nodup_collectOnto none entries

theorem mem_of_mem_collectOnto {kept entries : List (κ × α)} {entry : κ × α}
    (member : entry ∈ collectOnto kept entries) : entry ∈ kept ∨ entry ∈ entries := by
  induction entries generalizing kept with
  | nil => exact .inl member
  | cons first rest ih =>
    rcases ih member with held | later
    · rcases mem_of_mem_put held with old | rfl
      · exact .inl old
      · exact .inr List.mem_cons_self
    · exact .inr (List.mem_cons_of_mem _ later)

theorem mem_of_mem_collect {entries : List (κ × α)} {entry : κ × α}
    (member : entry ∈ collect entries) : entry ∈ entries :=
  (mem_of_mem_collectOnto member).resolve_left List.not_mem_nil

theorem get?_collectOnto (kept entries : List (κ × α)) (key : κ) :
    get? (collectOnto kept entries) key = (last? entries key).or (get? kept key) := by
  induction entries generalizing kept with
  | nil => rfl
  | cons entry rest ih =>
    refine (ih _).trans ?_
    change _ = ((last? rest key).or (if entry.1 = key then some entry.2 else none)).or _
    by_cases same : entry.1 = key
    · subst same
      rw [get?_put_same, if_pos rfl, Option.or_assoc, Option.some_or]
    · rw [get?_put_other _ _ (Ne.symm same), if_neg same, Option.or_none]

theorem get?_collect (entries : List (κ × α)) (key : κ) :
    get? (collect entries) key = last? entries key := by
  refine (get?_collectOnto [] entries key).trans ?_
  rw [get?, Option.or_none]

theorem put_of_missing {entries : List (κ × α)} {key : κ} (missing : key ∉ names entries)
    (value : α) : put entries key value = entries ++ [(key, value)] := by
  induction entries with
  | nil => rfl
  | cons entry rest ih =>
    simp only [names, List.map_cons, List.mem_cons, not_or] at missing
    simp only [put, Ne.symm missing.1, ↓reduceIte, ih missing.2, List.cons_append]

theorem collectOnto_of_nodup {kept entries : List (κ × α)}
    (distinct : (names (kept ++ entries)).Nodup) : collectOnto kept entries = kept ++ entries := by
  induction entries generalizing kept with
  | nil => exact (List.append_nil kept).symm
  | cons entry rest ih =>
    have missing : entry.1 ∉ names kept := by
      unfold names at distinct ⊢
      rw [List.map_append, List.map_cons] at distinct
      intro held
      exact (List.nodup_append.1 distinct).2.2 _ held _ List.mem_cons_self rfl
    have next : kept ++ entry :: rest = put kept entry.1 entry.2 ++ rest := by
      rw [put_of_missing missing, List.append_assoc, List.singleton_append]
    rw [next] at distinct ⊢
    exact ih distinct

/-- Where no name comes twice, all entries are collected as they are. -/
theorem collect_of_nodup {entries : List (κ × α)} (distinct : (names entries).Nodup) :
    collect entries = entries :=
  collectOnto_of_nodup distinct

theorem collectOnto_mapValues (change : α → β) (kept entries : List (κ × α)) :
    collectOnto (mapValues change kept) (mapValues change entries) =
      mapValues change (collectOnto kept entries) := by
  induction entries generalizing kept with
  | nil => rfl
  | cons entry rest ih =>
    refine Eq.trans ?_ (ih (put kept entry.1 entry.2))
    rw [← put_mapValues]
    rfl

theorem collect_mapValues (change : α → β) (entries : List (κ × α)) :
    collect (mapValues change entries) = mapValues change (collect entries) :=
  collectOnto_mapValues change [] entries

theorem put_eq_self {entries : List (κ × α)} {key : κ} {value : α}
    (held : get? entries key = some value) : put entries key value = entries := by
  induction entries with
  | nil => cases held
  | cons entry rest ih =>
    obtain ⟨name, old⟩ := entry
    by_cases same : name = key
    · simp only [get?, same, ↓reduceIte, Option.some.injEq] at held
      simp only [put, same, ↓reduceIte, held]
    · simp only [get?, same, ↓reduceIte] at held
      simp only [put, same, ↓reduceIte, ih held]

theorem erase_eq_self {entries : List (κ × α)} {key : κ} (missing : get? entries key = none) :
    erase entries key = entries := by
  refine List.filter_eq_self.2 fun entry member => decide_eq_true fun same => ?_
  exact get?_eq_none.1 missing (same ▸ List.mem_map_of_mem member)

theorem nodup_erase {entries : List (κ × α)} (distinct : (names entries).Nodup) (key : κ) :
    (names (erase entries key)).Nodup :=
  distinct.sublist (List.filter_sublist.map Prod.fst)

theorem mem_of_get? {entries : List (κ × α)} {key : κ} {value : α}
    (held : get? entries key = some value) : (key, value) ∈ entries := by
  induction entries with
  | nil => cases held
  | cons entry rest ih =>
    obtain ⟨name, old⟩ := entry
    by_cases same : name = key
    · simp only [get?, same, ↓reduceIte, Option.some.injEq] at held
      rw [same, held]
      exact List.mem_cons_self
    · simp only [get?, same, ↓reduceIte] at held
      exact List.mem_cons_of_mem _ (ih held)

end Bastion.Keyed
