import AdvisoryFeed.Proofs.Keyed
import AdvisoryFeed.Proofs.Store.Rows

/-!
# Rows that replace each other

Rows that are put into a table one after the other, each in the place of those with its key. From a
table without rows the last row of each key is left (`mem_replaceAll_iff`). Rows that are there
before stay when none of the new rows has their key, whatever else they are, and the rest of the
table is what the new rows alone would leave (`foldl_replaceBy`). So putting the same rows once more
changes nothing, and their order matters only to rows with one key.
-/

namespace AdvisoryFeed.Store

section ReplaceAll

variable {α κ : Type} [BEq κ] {key : α → κ}

/-- Puts rows into a table one after the other, each in the place of those with its key. -/
def replaceAll (key : α → κ) (rows : List α) : List α :=
  rows.foldl (replaceBy key) []

theorem replaceAll_concat (rows : List α) (row : α) :
    replaceAll key (rows ++ [row]) = replaceBy key (replaceAll key rows) row := by
  rw [replaceAll, List.foldl_append]
  rfl

/-- The keys replace each other as the rows do. -/
theorem map_replaceAll (rows : List α) :
    (replaceAll key rows).map key = replaceAll id (rows.map key) := by
  induction rows using List.reverseRecOn with
  | nil => rfl
  | append_singleton rows row ih =>
    rw [replaceAll_concat, List.map_append, List.map_singleton, replaceAll_concat, ← ih, replaceBy,
      replaceBy, List.map_append, List.filter_map]
    rfl

variable [LawfulBEq κ]

theorem nodup_replaceAll (rows : List α) : ((replaceAll key rows).map key).Nodup := by
  induction rows using List.reverseRecOn with
  | nil => exact List.nodup_nil
  | append_singleton rows row ih =>
    rw [replaceAll_concat]
    exact nodup_replaceBy key ih row

/-- Of each key the row that came last is there. -/
theorem mem_replaceAll_iff {rows : List α} {row : α} :
    row ∈ replaceAll key rows ↔ IsLastBy key rows row := by
  induction rows using List.reverseRecOn with
  | nil => exact ⟨fun h => absurd h List.not_mem_nil, fun h => absurd h.mem List.not_mem_nil⟩
  | append_singleton rows last ih =>
    rw [replaceAll_concat, isLastBy_concat_iff, replaceBy, List.mem_append, List.mem_filter, ih,
      List.mem_singleton, bne_iff_ne, or_comm]

/-- All rows stay exactly when their keys are different. -/
theorem replaceAll_eq_self_iff {rows : List α} :
    replaceAll key rows = rows ↔ (rows.map key).Nodup := by
  constructor
  · intro h
    rw [← h]
    exact nodup_replaceAll rows
  · intro h
    induction rows using List.reverseRecOn with
    | nil => rfl
    | append_singleton rows row ih =>
      rw [List.map_append, List.map_singleton, List.nodup_append] at h
      obtain ⟨hbefore, -, hapart⟩ := h
      rw [replaceAll_concat, ih hbefore, replaceBy, List.filter_eq_self.2]
      intro other hother
      exact bne_iff_ne.2 (hapart _ (List.mem_map_of_mem hother) _ (by simp))

/-! ## Rows that are there before -/

theorem mem_map_replaceAll_iff {rows : List α} {k : κ} :
    k ∈ (replaceAll key rows).map key ↔ k ∈ rows.map key := by
  rw [map_replaceAll, mem_replaceAll_iff]
  exact isLastBy_iff_mem fun _ _ _ _ h => h

/-- Of the rows that are there before, those stay that have the key of no new row. -/
theorem foldl_replaceBy (rows more : List α) :
    more.foldl (replaceBy key) rows =
      rows.filter (fun row => !(more.map key).contains (key row)) ++ replaceAll key more := by
  induction more using List.reverseRecOn with
  | nil => simp [replaceAll]
  | append_singleton more last ih =>
    -- The last row erases its key from both parts, and from the first one that is one more key.
    rw [List.foldl_append, ih, List.foldl_cons, List.foldl_nil, replaceAll_concat, replaceBy,
      replaceBy, List.filter_append, List.filter_filter, List.append_assoc]
    congr 2
    funext row
    rw [List.map_append, List.map_singleton, Bool.eq_iff_iff]
    simp [and_comm]

theorem mem_map_foldl_replaceBy_iff {rows more : List α} {k : κ} :
    k ∈ (more.foldl (replaceBy key) rows).map key ↔ k ∈ rows.map key ∨ k ∈ more.map key := by
  rw [foldl_replaceBy, List.map_append, List.mem_append, mem_map_replaceAll_iff]
  by_cases hmore : k ∈ more.map key
  · exact iff_of_true (Or.inr hmore) (Or.inr hmore)
  · rw [or_iff_left hmore, or_iff_left hmore, List.mem_map, List.mem_map]
    refine exists_congr fun row => and_congr_left ?_
    rintro rfl
    rw [List.mem_filter]
    exact and_iff_left (by simpa using hmore)

/-- Rows that no new row replaces, and that no new row is one of, stay the same. -/
theorem filter_foldl_replaceBy {p : α → Bool} {rows more : List α}
    (hold : ∀ row ∈ rows, p row = true → key row ∉ more.map key)
    (hnew : ∀ row ∈ more, p row = false) :
    (more.foldl (replaceBy key) rows).filter p = rows.filter p := by
  have hnone : (replaceAll key more).filter p = [] := by
    rw [List.filter_eq_nil_iff]
    intro row hrow
    rw [hnew row (mem_replaceAll_iff.1 hrow).mem]
    exact Bool.false_ne_true
  rw [foldl_replaceBy, List.filter_append, hnone, List.append_nil, List.filter_filter]
  apply List.filter_congr
  intro row hrow
  cases hp : p row with
  | false => rfl
  | true => simpa using hold row hrow hp

/-- Rows that have just been put are put once more without a change. -/
theorem foldl_replaceBy_idem (rows more : List α) :
    more.foldl (replaceBy key) (more.foldl (replaceBy key) rows) =
      more.foldl (replaceBy key) rows := by
  have hnone :
      (replaceAll key more).filter (fun row => !(more.map key).contains (key row)) = [] := by
    rw [List.filter_eq_nil_iff]
    intro row hrow
    have hkey := mem_map_replaceAll_iff.1 (List.mem_map_of_mem hrow)
    simpa using hkey
  rw [foldl_replaceBy _ more, foldl_replaceBy rows more, List.filter_append, hnone,
    List.append_nil, List.filter_filter]
  simp only [Bool.and_self]

/-- The order of rows does not matter where those with one key are the same. -/
theorem perm_foldl_replaceBy (rows : List α) {more other : List α} (h : more.Perm other)
    (hsame : ∀ x ∈ more, ∀ y ∈ more, key x = key y → x = y) :
    (more.foldl (replaceBy key) rows).Perm (other.foldl (replaceBy key) rows) := by
  have hother : ∀ x ∈ other, ∀ y ∈ other, key x = key y → x = y := by
    intro x hx y hy
    exact hsame x (h.mem_iff.2 hx) y (h.mem_iff.2 hy)
  have hbefore : rows.filter (fun row => !(more.map key).contains (key row)) =
      rows.filter fun row => !(other.map key).contains (key row) := by
    simp only [(h.map key).contains_eq]
  rw [foldl_replaceBy, foldl_replaceBy, hbefore]
  apply List.Perm.append_left
  -- Each key is there once, and the last of its rows is any of them.
  rw [List.perm_ext_iff_of_nodup (nodup_replaceAll more).of_map (nodup_replaceAll other).of_map]
  intro row
  rw [mem_replaceAll_iff, mem_replaceAll_iff, isLastBy_iff_mem hsame, isLastBy_iff_mem hother,
    h.mem_iff]

end ReplaceAll

end AdvisoryFeed.Store
