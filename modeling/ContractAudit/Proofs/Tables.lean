import ContractAudit.Json.Basic
import Mathlib.Data.List.Induction
import Mathlib.Data.List.Perm.Basic
import Mathlib.Tactic.Lemma

/-!
# Tables in the order of first sight

Several tables have a row for each key, in the order in which the keys were first seen. Their keys
are a list from which repetitions are erased, and new values go into the row of their key or into a
new row at the end (`upsert_map`).
-/

namespace ContractAudit

/-- Keeping some elements is adding nothing for the others. -/
lemma flatMap_filter {α β : Type} (p : α → Bool) (g : α → List β) (xs : List α) :
    (xs.filter p).flatMap g = xs.flatMap fun x => if p x then g x else [] := by
  induction xs with
  | nil => rfl
  | cons x xs ih => cases h : p x <;> simp [h, ih]

/-- If all keys are different, at most one row has a key. -/
lemma filter_eq_toList_find? {α : Type*} {κ : Type} [BEq κ] [LawfulBEq κ] {key : α → κ}
    {rows : List α} (h : (rows.map key).Nodup) (k : κ) :
    rows.filter (fun row => key row == k) = (rows.find? fun row => key row == k).toList := by
  induction rows with
  | nil => rfl
  | cons row rows ih =>
    rw [List.map_cons, List.nodup_cons] at h
    by_cases hkey : key row = k
    · have hothers : rows.filter (fun row => key row == k) = [] := by
        rw [List.filter_eq_nil_iff]
        intro other hother hsame
        apply h.1
        rw [hkey, ← eq_of_beq hsame]
        exact List.mem_map_of_mem hother
      rw [List.filter_cons_of_pos (by simpa using hkey), hothers,
        List.find?_cons_of_pos (by simpa using hkey)]
      rfl
    · rw [List.filter_cons_of_neg (by simpa using hkey), ih h.2,
        List.find?_cons_of_neg (by simpa using hkey)]

/-- Keys that nothing comes from can be left out. -/
lemma flatMap_perm_of_subset {α β : Type} [DecidableEq α] {xs ys : List α} (hxs : xs.Nodup)
    (hys : ys.Nodup) (hsubset : ys ⊆ xs) {f : α → List β} (hf : ∀ x, x ∉ ys → f x = []) :
    (xs.flatMap f).Perm (ys.flatMap f) := by
  have hperm : (xs.filter fun x => decide (x ∈ ys)).Perm ys := by
    apply (List.perm_ext_iff_of_nodup (hxs.filter _) hys).2
    intro x
    rw [List.mem_filter, decide_eq_true_eq]
    exact and_iff_right_of_imp fun hx => hsubset hx
  have hfilter : (xs.filter fun x => decide (x ∈ ys)).flatMap f = xs.flatMap f := by
    rw [flatMap_filter]
    apply List.flatMap_congr
    intro x _
    by_cases hx : x ∈ ys
    · rw [if_pos (decide_eq_true hx)]
    · rw [if_neg (by simpa using hx), hf x hx]
  rw [← hfilter]
  exact hperm.flatMap_right f

variable {α : Type} [BEq α] [LawfulBEq α]

/-- Only a new element stays at the end. -/
lemma eraseDups_concat (xs : List α) (x : α) :
    (xs ++ [x]).eraseDups = if x ∈ xs then xs.eraseDups else xs.eraseDups ++ [x] := by
  rw [List.eraseDups_append]
  by_cases h : x ∈ xs <;> simp [List.removeAll, h, List.eraseDups_cons]

/-- Without repetitions nothing is there twice. -/
lemma nodup_eraseDups (xs : List α) : xs.eraseDups.Nodup := by
  induction xs using List.reverseRecOn with
  | nil => exact .nil
  | append_singleton xs x ih =>
    rw [eraseDups_concat]
    split
    · exact ih
    · rename_i hx
      have hnew : x ∉ xs.eraseDups := mt List.mem_eraseDups.1 hx
      refine List.nodup_append.2 ⟨ih, List.pairwise_singleton _ x, ?_⟩
      rintro y hy z hz rfl
      exact hnew (List.mem_singleton.1 hz ▸ hy)

/-- It does not matter whether elements are left out before or after repetitions. -/
lemma filter_eraseDups (p : α → Bool) (xs : List α) :
    xs.eraseDups.filter p = (xs.filter p).eraseDups := by
  induction xs using List.reverseRecOn with
  | nil => rfl
  | append_singleton xs x ih =>
    rw [eraseDups_concat, List.filter_append]
    cases hp : p x with
    | false => split <;> simp [hp, ih]
    | true =>
      rw [List.filter_cons_of_pos hp, List.filter_nil, eraseDups_concat, ← ih]
      by_cases hx : x ∈ xs <;> simp [hx, hp]

/-- Repetitions are within the parts if the parts have nothing in common. -/
lemma eraseDups_append_of_disjoint {xs ys : List α} (h : xs.Disjoint ys) :
    (xs ++ ys).eraseDups = xs.eraseDups ++ ys.eraseDups := by
  have hnew : ys.removeAll xs = ys := by
    rw [List.removeAll, List.filter_eq_self]
    intro y hy
    simpa using fun hx => h hx hy
  rw [List.eraseDups_append, hnew]

/-- A table with one row for each key has values for its keys. -/
lemma lookup?_map {β : Type} (keys : List α) (value : α → β) (key : α) :
    lookup? key (keys.map fun k => (k, value k)) =
      if key ∈ keys then some (value key) else none := by
  induction keys with
  | nil => rfl
  | cons k keys ih =>
    rw [List.map_cons, lookup?, ih]
    by_cases h : k = key
    · simp [h]
    · simp [h, Ne.symm h]

/-- A new value replaces the one in the row of its key, or gets a row of its own at the end. -/
lemma upsert_map [DecidableEq α] {β : Type} {keys : List α} (hkeys : keys.Nodup)
    (value : α → β) (key : α) (v : β) :
    upsert key v (keys.map fun k => (k, value k)) =
      (if key ∈ keys then keys else keys ++ [key]).map
        fun k => (k, if k = key then v else value k) := by
  induction keys with
  | nil => simp [upsert]
  | cons k keys ih =>
    obtain ⟨hk, hrest⟩ := List.nodup_cons.1 hkeys
    rw [List.map_cons, upsert]
    by_cases h : k = key
    · subst h
      have hother : ∀ k' ∈ keys, k' ≠ k := fun k' hk' heq => hk (heq ▸ hk')
      rw [if_pos BEq.rfl, if_pos List.mem_cons_self, List.map_cons, if_pos rfl]
      congr 1
      apply List.map_congr_left
      intro k' hk'
      rw [if_neg (hother k' hk')]
    · rw [if_neg (mt beq_iff_eq.1 h), ih hrest]
      by_cases hmem : key ∈ keys
      · simp [hmem, h]
      · simp [hmem, h, Ne.symm h]

/-- Nothing is found under a key that no row has. -/
lemma lookup?_of_notMem {β : Type} {key : α} {rows : List (α × β)}
    (h : key ∉ rows.map Prod.fst) : lookup? key rows = none := by
  induction rows with
  | nil => rfl
  | cons row rows ih =>
    rw [List.map_cons, List.mem_cons, not_or] at h
    rw [lookup?, if_neg (mt beq_iff_eq.1 (Ne.symm h.1)), ih h.2]

/-- A new key gets a row at the end. -/
lemma upsert_of_notMem {β : Type} {key : α} (v : β) {rows : List (α × β)}
    (h : key ∉ rows.map Prod.fst) : upsert key v rows = rows ++ [(key, v)] := by
  induction rows with
  | nil => rfl
  | cons row rows ih =>
    rw [List.map_cons, List.mem_cons, not_or] at h
    rw [upsert, if_neg (mt beq_iff_eq.1 (Ne.symm h.1)), ih h.2, List.cons_append]

end ContractAudit
