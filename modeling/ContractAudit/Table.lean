/-!
# Tables

A table is a list of rows with a key and a value. A look-up takes the first row of a key. A new value
goes into the row of its key, or into a new row at the end, so that the rows stand in the order in
which their keys were first seen.
-/

namespace ContractAudit

universe u

variable {α : Type} {β : Type u} [BEq α]

/-- The value of a key. -/
def lookup? (key : α) : List (α × β) → Option β
  | [] => none
  | (k, v) :: rest => if k == key then some v else lookup? key rest

/-- The table with a new value for a key. -/
def upsert (key : α) (value : β) : List (α × β) → List (α × β)
  | [] => [(key, value)]
  | (k, v) :: rest => if k == key then (k, value) :: rest else (k, v) :: upsert key value rest

/-- After a new value for a key, a look-up finds this value under the key, and under any other key
what was there. -/
theorem lookup?_upsert [LawfulBEq α] (key k : α) (v : β) (rows : List (α × β)) :
    lookup? k (upsert key v rows) = if key == k then some v else lookup? k rows := by
  induction rows with
  | nil => rfl
  | cons row rows ih =>
    rw [upsert]
    by_cases hrow : row.1 = key
    · rw [if_pos (beq_iff_eq.2 hrow), lookup?, lookup?, hrow]
      split <;> rfl
    · rw [if_neg (mt beq_iff_eq.1 hrow), lookup?, ih, lookup?]
      by_cases hk : row.1 = k
      · rw [if_pos (beq_iff_eq.2 hk), if_pos (beq_iff_eq.2 hk),
          if_neg (mt beq_iff_eq.1 fun heq => hrow (hk.trans heq.symm))]
      · rw [if_neg (mt beq_iff_eq.1 hk), if_neg (mt beq_iff_eq.1 hk)]

end ContractAudit
