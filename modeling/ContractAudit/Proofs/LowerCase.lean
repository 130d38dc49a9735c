import ContractAudit.Report
import ContractAudit.Text.Case
import ContractAudit.Text.Utf8
import Mathlib.Tactic.Lemma
import Mathlib.Tactic.SplitIfs

/-!
# Lower case and surrogates

Lower case maps surrogates to themselves and nothing else to a surrogate. So whether a text is one
of Unicode can be read off its lower-case form (`Text.lower_any_isSurrogate`), and texts with the
same lower-case form are refused alike (`unicodeProblem?_congr`). A text can be encoded exactly if it
has no surrogate (`Utf8.exists_encode_eq_ok_iff`).
-/

namespace ContractAudit

open Utf8 (isSurrogate)

/-- The numbers of surrogates. -/
def IsSurrogateNumber (n : Nat) : Prop :=
  0xD800 ≤ n ∧ n ≤ 0xDFFF

namespace CodePoint

/-- A code point is a surrogate if its number is that of one. -/
lemma isSurrogate_iff (p : CodePoint) : isSurrogate p = true ↔ IsSurrogateNumber p.value := by
  cases p with
  | scalar c =>
    have hvalid : c.toNat.isValidChar := c.valid
    simp only [isSurrogate, value, IsSurrogateNumber, Nat.isValidChar] at *
    constructor
    · intro h
      cases h
    · intro h
      omega
  | surrogate i =>
    have hi := i.isLt
    simp only [isSurrogate, value, IsSurrogateNumber, true_iff]
    omega

/-- A number has a surrogate for its code point if it is the number of one. -/
lemma isSurrogate_ofNatD_iff (n : Nat) :
    isSurrogate (ofNatD n) = true ↔ IsSurrogateNumber n := by
  unfold ofNatD ofNat? IsSurrogateNumber
  by_cases hvalid : n.isValidChar
  · rw [dif_pos hvalid, Option.getD_some, isSurrogate, Bool.false_eq_true, false_iff]
    unfold Nat.isValidChar at hvalid
    omega
  · rw [dif_neg hvalid]
    split
    · split
      · rw [Option.getD_some, isSurrogate, eq_self, true_iff]
        omega
      · rw [Option.getD_none, isSurrogate, Bool.false_eq_true, false_iff]
        omega
    · rw [Option.getD_none, isSurrogate, Bool.false_eq_true, false_iff]
      omega

end CodePoint

/-- No run of the table touches the surrogates or leads to them. -/
lemma lowerRuns_avoid_surrogates :
    ∀ run ∈ lowerRuns, (run.2.1 < 0xD800 ∨ 0xDFFF < run.1) ∧
      ((run.2.1 : Int) + run.2.2.2 < 0xD800 ∨ 0xDFFF < (run.1 : Int) + run.2.2.2) := by
  decide +kernel

/-- The table takes numbers of surrogates to such numbers, and others to others. -/
lemma isSurrogateNumber_mapRuns_iff (n : Nat) :
    IsSurrogateNumber (mapRuns lowerRuns n) ↔ IsSurrogateNumber n := by
  unfold mapRuns
  split
  · rename_i first last step shift hfind
    obtain ⟨hsource, htarget⟩ := lowerRuns_avoid_surrogates _ (List.mem_of_find?_eq_some hfind)
    have hrange := List.find?_some hfind
    simp only [Bool.and_eq_true, decide_eq_true_eq] at hrange
    simp only [IsSurrogateNumber] at *
    omega
  · rfl

/-- The lower-case form of a code point has a surrogate if the code point is one. -/
lemma lowerPoint_any_isSurrogate (before after : Text) (p : CodePoint) :
    (lowerPoint before after p).any isSurrogate = isSurrogate p := by
  rw [Bool.eq_iff_iff, CodePoint.isSurrogate_iff]
  simp only [lowerPoint]
  by_cases hascii : p.value < 0x80
  · rw [if_pos hascii, List.any_cons, List.any_nil, Bool.or_false]
    split_ifs
    · rw [CodePoint.isSurrogate_ofNatD_iff]
      simp only [IsSurrogateNumber]
      omega
    · exact p.isSurrogate_iff
  · rw [if_neg hascii]
    by_cases hsigma : p.value = 0x3A3
    · rw [if_pos hsigma, List.any_cons, List.any_nil, Bool.or_false,
        CodePoint.isSurrogate_ofNatD_iff]
      simp only [IsSurrogateNumber]
      split_ifs
      · omega
      · omega
    · rw [if_neg hsigma]
      by_cases hdotted : p.value = 0x130
      · simp only [if_pos hdotted, List.any_cons, List.any_nil, Bool.or_false, Bool.or_eq_true,
          CodePoint.isSurrogate_ofNatD_iff, IsSurrogateNumber]
        omega
      · rw [if_neg hdotted, List.any_cons, List.any_nil, Bool.or_false,
          CodePoint.isSurrogate_ofNatD_iff]
        exact isSurrogateNumber_mapRuns_iff p.value

/-- A text has a surrogate if its lower-case form has one. -/
lemma Text.lower_any_isSurrogate (t : Text) : t.lower.any isSurrogate = t.any isSurrogate := by
  have haux : ∀ before, (lowerAux before t).any isSurrogate = t.any isSurrogate := by
    induction t with
    | nil => exact fun _ => rfl
    | cons p t ih =>
      intro before
      rw [lowerAux, List.any_append, lowerPoint_any_isSurrogate, ih, List.any_cons]
  exact haux []

/-- A text spells a string if it has no surrogate. -/
lemma Text.toString?_isNone (t : Text) : t.toString?.isNone = t.any isSurrogate := by
  have hmap : (t.mapM CodePoint.toChar?).isNone = t.any isSurrogate := by
    induction t with
    | nil => rfl
    | cons p t ih =>
      rw [List.mapM_cons, List.any_cons, ← ih]
      cases p with
      | scalar c =>
        simp only [CodePoint.toChar?, isSurrogate, Bool.false_or]
        cases t.mapM CodePoint.toChar? with
        | none => rfl
        | some cs => rfl
      | surrogate i => rfl
  rw [← hmap, toString?]
  cases t.mapM CodePoint.toChar? with
  | none => rfl
  | some cs => rfl

/-- Texts with the same lower-case form are refused alike. -/
lemma unicodeProblem?_congr {t t' : Text} (name : String) (h : t.lower = t'.lower) :
    unicodeProblem? name t = unicodeProblem? name t' := by
  have hnone : t.toString?.isNone = t'.toString?.isNone := by
    rw [Text.toString?_isNone, Text.toString?_isNone, ← Text.lower_any_isSurrogate, h,
      Text.lower_any_isSurrogate]
  unfold unicodeProblem?
  cases ht : t.toString? with
  | none =>
    cases ht' : t'.toString? with
    | none => rfl
    | some s => simp [ht, ht'] at hnone
  | some s =>
    cases ht' : t'.toString? with
    | none => simp [ht, ht'] at hnone
    | some s' => rfl

/-! ## Texts that can be encoded -/

namespace Utf8

/-- There is a first run of surrogates unless there is no surrogate. -/
lemma firstSurrogates?_isNone (position : Nat) (t : Text) :
    (firstSurrogates? position t).isNone = !t.any isSurrogate := by
  induction t generalizing position with
  | nil => rfl
  | cons p t ih =>
    cases p with
    | scalar c => exact ih (position + 1)
    | surrogate i => rfl

/-- A text can be encoded if it has no surrogate. -/
lemma exists_encode_eq_ok {t : Text} (h : t.any isSurrogate = false) :
    ∃ bytes, encode t = .ok bytes := by
  have hnone : firstSurrogates? 0 t = none := by
    rw [← Option.isNone_iff_eq_none, firstSurrogates?_isNone, h]
    rfl
  exact ⟨_, by rw [encode, hnone]⟩

/-- A text cannot be encoded if it has a surrogate. -/
lemma exists_encode_eq_error {t : Text} (h : t.any isSurrogate = true) :
    ∃ e, encode t = .error e := by
  cases hfirst : firstSurrogates? 0 t with
  | none =>
    have hnone := firstSurrogates?_isNone 0 t
    rw [hfirst, h] at hnone
    cases hnone
  | some e => exact ⟨e, by rw [encode, hfirst]⟩

/-- The texts that can be encoded are those without a surrogate. -/
lemma exists_encode_eq_ok_iff {t : Text} :
    (∃ bytes, encode t = .ok bytes) ↔ t.any isSurrogate = false := by
  refine ⟨?_, exists_encode_eq_ok⟩
  rintro ⟨bytes, hbytes⟩
  cases h : t.any isSurrogate with
  | false => rfl
  | true =>
    obtain ⟨e, he⟩ := exists_encode_eq_error h
    rw [hbytes] at he
    cases he

end Utf8

end ContractAudit
