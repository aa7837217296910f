import AdvisoryFeed.Store.Listing
import Mathlib.Data.List.Nodup

/-!
# Rows by their keys

No table has a constraint that keeps its keys apart; a row is written by erasing the rows with its
key and adding it (`replaceBy`). Written so, keys that are once each stay so (`nodup_replaceBy`) and
looking up a key finds the row written last (`find?_replaceBy`). `Tables.Keyed` says that no table
has two rows with one key. `Tables.vulnerability?`, `Tables.affected?` and `Tables.getKey` are what
the tables show under a key; each statement that writes changes one of them at one key.
-/

namespace AdvisoryFeed.Store

/-! ## Replacement -/

section Replacement

variable {α κ : Type} [BEq κ] [LawfulBEq κ] (key : α → κ)

/-- Puts a row in the place of those with its key. -/
def replaceBy (rows : List α) (row : α) : List α :=
  rows.filter (fun other => key other != key row) ++ [row]

/-- Under the key of the new row the new row is found, under every other key what was there. -/
theorem find?_replaceBy (rows : List α) (row : α) (k : κ) :
    (replaceBy key rows row).find? (fun other => key other == k) =
      if key row == k then some row else rows.find? fun other => key other == k := by
  rw [replaceBy, List.find?_append, List.find?_filter]
  by_cases h : key row = k
  · subst h
    -- All rows with the key are erased, so none of them is found before the new one.
    have hnone : rows.find? (fun other => decide ((key other != key row) = true ∧
        (key other == key row) = true)) = none := by
      rw [List.find?_eq_none]
      simp
    rw [hnone]
    simp
  · have hlast : ([row].find? fun other => key other == k) = none := by simp [h]
    rw [hlast, Option.or_none, if_neg (by simpa using h)]
    congr 1
    funext other
    by_cases hother : key other = k
    · simp [hother, Ne.symm h]
    · simp [hother]

/-- Keys that are once each stay so. -/
theorem nodup_replaceBy {rows : List α} (h : (rows.map key).Nodup) (row : α) :
    ((replaceBy key rows row).map key).Nodup := by
  rw [replaceBy, List.map_append, List.nodup_append]
  refine ⟨h.sublist (List.filter_sublist.map key), by simp, ?_⟩
  intro k hk k' hk' heq
  obtain ⟨other, hother, rfl⟩ := List.mem_map.1 hk
  obtain rfl : k' = key row := by simpa using hk'
  have hne := (List.mem_filter.1 hother).2
  simp [heq] at hne

end Replacement

/-! ## What tables show -/

/-- What is stored of the vulnerability with an id. -/
def Tables.vulnerability? (tables : Tables) (id : String) : Option Columns :=
  (tables.vulnerabilities.find? (·.id == id)).map VulnerabilityRow.columns

/-- What is stored of a package of a vulnerability. -/
def Tables.affected? (tables : Tables) (id platform feature : String) : Option Columns :=
  (tables.affected.find? (·.key == (id, platform, feature))).map AffectedRow.columns

/-- No table has two rows with one key. -/
structure Tables.Keyed (tables : Tables) : Prop where
  vulnerabilities : (tables.vulnerabilities.map VulnerabilityRow.id).Nodup
  affected : (tables.affected.map AffectedRow.key).Nodup
  keyValues : (tables.keyValues.map KeyRow.key).Nodup

theorem Tables.keyed_empty : Tables.empty.Keyed :=
  ⟨List.nodup_nil, List.nodup_nil, List.nodup_nil⟩

section Writes

variable (tables : Tables)

theorem Tables.vulnerability?_putVulnerability (row : VulnerabilityRow) (id : String) :
    (tables.putVulnerability row).vulnerability? id =
      if row.id == id then some row.columns else tables.vulnerability? id := by
  rw [Tables.vulnerability?]
  change ((replaceBy VulnerabilityRow.id tables.vulnerabilities row).find? _).map _ = _
  rw [find?_replaceBy]
  split <;> rfl

@[simp] theorem Tables.affected?_putVulnerability (row : VulnerabilityRow)
    (id platform feature : String) :
    (tables.putVulnerability row).affected? id platform feature =
      tables.affected? id platform feature := rfl

@[simp] theorem Tables.getKey_putVulnerability (row : VulnerabilityRow) (key : Option String) :
    (tables.putVulnerability row).getKey key = tables.getKey key := rfl

theorem Tables.affected?_putAffected (row : AffectedRow) (id platform feature : String) :
    (tables.putAffected row).affected? id platform feature =
      if row.key == (id, platform, feature) then some row.columns
      else tables.affected? id platform feature := by
  rw [Tables.affected?]
  change ((replaceBy AffectedRow.key tables.affected row).find? _).map _ = _
  rw [find?_replaceBy]
  split <;> rfl

@[simp] theorem Tables.vulnerability?_putAffected (row : AffectedRow) (id : String) :
    (tables.putAffected row).vulnerability? id = tables.vulnerability? id := rfl

@[simp] theorem Tables.getKey_putAffected (row : AffectedRow) (key : Option String) :
    (tables.putAffected row).getKey key = tables.getKey key := rfl

theorem Tables.getKey_putKey (row : KeyRow) (key : String) :
    (tables.putKey row).getKey (some key) =
      if row.key == key then row.value else tables.getKey (some key) := by
  rw [Tables.getKey]
  change (((replaceBy KeyRow.key tables.keyValues row).find? _).bind _) = _
  rw [find?_replaceBy]
  split <;> rfl

@[simp] theorem Tables.vulnerability?_putKey (row : KeyRow) (id : String) :
    (tables.putKey row).vulnerability? id = tables.vulnerability? id := rfl

@[simp] theorem Tables.affected?_putKey (row : KeyRow) (id platform feature : String) :
    (tables.putKey row).affected? id platform feature = tables.affected? id platform feature := rfl

variable {tables}

theorem Tables.Keyed.putVulnerability (h : tables.Keyed) (row : VulnerabilityRow) :
    (tables.putVulnerability row).Keyed :=
  ⟨nodup_replaceBy VulnerabilityRow.id h.vulnerabilities row, h.affected, h.keyValues⟩

theorem Tables.Keyed.putAffected (h : tables.Keyed) (row : AffectedRow) :
    (tables.putAffected row).Keyed :=
  ⟨h.vulnerabilities, nodup_replaceBy AffectedRow.key h.affected row, h.keyValues⟩

theorem Tables.Keyed.putKey (h : tables.Keyed) (row : KeyRow) : (tables.putKey row).Keyed :=
  ⟨h.vulnerabilities, h.affected, nodup_replaceBy KeyRow.key h.keyValues row⟩

end Writes

end AdvisoryFeed.Store
