/-!
# Keyed lists

A list of which every item has a key. `putBy` puts an item in the place of the first one with its
key, or at the end; so a list keeps its keys in the order in which they came, and once each
(`nodup_putBy`). `putPair` puts a value under a key, where it is then found (`lookup_putPair`).
-/

namespace AdvisoryFeed

/-- Puts an item in the place of the first one with the same key, or at the end. -/
def putBy {α κ : Type} [DecidableEq κ] (key : α → κ) (x : α) : List α → List α
  | [] => [x]
  | y :: ys => if key y = key x then x :: ys else y :: putBy key x ys

/-- The keys after putting an item. -/
theorem map_putBy {α κ : Type} [DecidableEq κ] (key : α → κ) (x : α) (items : List α) :
    (putBy key x items).map key =
      if key x ∈ items.map key then items.map key else items.map key ++ [key x] := by
  induction items with
  | nil => simp [putBy]
  | cons y ys ih =>
    by_cases h : key y = key x
    · simp [putBy, h]
    · have h' : ¬ key x = key y := fun e => h e.symm
      by_cases hm : key x ∈ ys.map key
      · simp only [putBy, h, if_false, List.map_cons, ih, if_pos hm, List.mem_cons, h', false_or]
      · simp only [putBy, h, if_false, List.map_cons, ih, if_neg hm, List.mem_cons, h', false_or,
          List.cons_append]

/-- Keys that are once each stay so. -/
theorem nodup_putBy {α κ : Type} [DecidableEq κ] {key : α → κ} {items : List α}
    (h : (items.map key).Nodup) (x : α) : ((putBy key x items).map key).Nodup := by
  rw [map_putBy]
  split
  · exact h
  · next hx =>
    rw [List.nodup_append]
    refine ⟨h, by simp, ?_⟩
    intro a ha b hb e
    have : b = key x := by simpa using hb
    exact hx (this ▸ e ▸ ha)

/-- Puts a value under a key. -/
def putPair {κ α : Type} [DecidableEq κ] (key : κ) (value : α) (pairs : List (κ × α)) :
    List (κ × α) :=
  putBy Prod.fst (key, value) pairs

theorem lookup_cons_ite {κ α : Type} [DecidableEq κ] (k : κ) (pair : κ × α)
    (pairs : List (κ × α)) :
    (pair :: pairs).lookup k = if k = pair.1 then some pair.2 else pairs.lookup k := by
  rw [List.lookup_cons]
  by_cases hk : k = pair.1
  · simp [hk]
  · have hbeq : (k == pair.1) = false := beq_false_of_ne hk
    rw [hbeq, if_neg hk]

/-- Under its key the new value is found, under every other key what was there. -/
theorem lookup_putPair {κ α : Type} [DecidableEq κ] (key k : κ) (value : α)
    (pairs : List (κ × α)) :
    (putPair key value pairs).lookup k = if k = key then some value else pairs.lookup k := by
  rw [putPair]
  induction pairs with
  | nil => rw [putBy, lookup_cons_ite]
  | cons pair pairs ih =>
    rw [putBy, lookup_cons_ite k pair]
    by_cases hpair : pair.1 = key
    · rw [if_pos hpair, lookup_cons_ite, hpair]
      by_cases hk : k = key
      · rw [if_pos hk, if_pos hk]
      · rw [if_neg hk, if_neg hk, if_neg hk]
    · rw [if_neg hpair, lookup_cons_ite, ih]
      by_cases hk : k = pair.1
      · have hne : ¬ k = key := fun h => hpair (hk.symm.trans h)
        rw [if_pos hk, if_pos hk, if_neg hne]
      · rw [if_neg hk, if_neg hk]

end AdvisoryFeed
