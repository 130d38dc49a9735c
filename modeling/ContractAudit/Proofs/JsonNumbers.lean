import ContractAudit.Proofs.JsonStrings
import Mathlib.Data.List.DropRight

/-!
# Numbers of JSON texts

A number is a sign, digits, perhaps a fraction and perhaps an exponent, and it ends where none of
these can go on. `IsNumeral` says which texts are numbers; each of them is read as a whole, whatever
follows (`IsNumeral.exists_readsAs`). Whole numbers and finite floating-point numbers are written as
such texts (`isNumeral_int`, `isNumeral_or_literal`).
-/

namespace ContractAudit

namespace Json

/-! ## The parts of a number -/

/-- What follows a value cannot be a part of a number. -/
def Stops (rest : Text) : Prop :=
  ∀ p ∈ rest.head?, isDigit p = false ∧ p.isChar '.' = false ∧ p.isChar 'e' = false ∧
    p.isChar 'E' = false

/-- Digits, at least one. -/
structure IsDigits (t : Text) : Prop where
  ne_nil : t ≠ []
  digits : ∀ p ∈ t, isDigit p = true

/-- A minus sign or none. -/
inductive IsSign : Text → Prop where
  | none : IsSign []
  | minus : IsSign [.scalar '-']

/-- Digits before the point: a single zero, or digits that do not begin with one. -/
inductive IsWhole : Text → Prop where
  | zero : IsWhole [.scalar '0']
  | digits {p : CodePoint} {t : Text} (hfirst : isDigit p = true) (hzero : p.isChar '0' = false)
      (ht : ∀ q ∈ t, isDigit q = true) : IsWhole (p :: t)

/-- A point with digits after it, or nothing. -/
inductive IsFraction : Text → Prop where
  | none : IsFraction []
  | point {t : Text} (h : IsDigits t) : IsFraction (.scalar '.' :: t)

/-- A mark with a sign and digits after it, or nothing. -/
inductive IsExponent : Text → Prop where
  | none : IsExponent []
  | mark {sign : Char} {t : Text} (hsign : sign = '+' ∨ sign = '-') (h : IsDigits t) :
      IsExponent (.scalar 'e' :: .scalar sign :: t)

/-- The text of a number. Only whole numbers have a limit on their digits. -/
inductive IsNumeral : Text → Prop where
  | intro {sign whole fraction exponent : Text} (hsign : IsSign sign) (hwhole : IsWhole whole)
      (hfraction : IsFraction fraction) (hexponent : IsExponent exponent)
      (hlimit : fraction = [] → exponent = [] → whole.length ≤ digitLimit) :
      IsNumeral (sign ++ (whole ++ (fraction ++ exponent)))

/-- A text that does not begin with a digit. -/
def NoDigit (t : Text) : Prop :=
  ∀ p ∈ t.head?, isDigit p = false

/-- Where no number goes on, there is no digit. -/
lemma Stops.noDigit {rest : Text} (h : Stops rest) : NoDigit rest :=
  fun p hp => (h p hp).1

/-- Digits are taken up to where there are no more. -/
lemma takeWhile_isDigit_append {ds rest : Text} (hds : ∀ p ∈ ds, isDigit p = true)
    (hrest : NoDigit rest) : (ds ++ rest).takeWhile isDigit = ds := by
  rw [List.takeWhile_append_of_pos hds]
  cases rest with
  | nil => rw [List.takeWhile_nil, List.append_nil]
  | cons p rest =>
    have hp := hrest p rfl
    rw [List.takeWhile_cons_of_neg (Bool.eq_false_iff.1 hp), List.append_nil]

/-! ## Reading the parts -/

variable {sign whole fraction exponent rest t : Text}

/-- The digits before the point begin with a digit. -/
lemma IsWhole.exists_cons (h : IsWhole whole) : ∃ p t, whole = p :: t ∧ isDigit p = true := by
  cases h with
  | zero => exact ⟨_, _, rfl, by decide⟩
  | digits hfirst _ _ => exact ⟨_, _, rfl, hfirst⟩

/-- A fraction does not begin with a digit. -/
lemma IsFraction.noDigit (h : IsFraction fraction) (hrest : NoDigit rest) :
    NoDigit (fraction ++ rest) := by
  cases h with
  | none => exact hrest
  | point _ =>
    rintro p ⟨⟩
    decide

/-- An exponent does not begin with a digit. -/
lemma IsExponent.noDigit (h : IsExponent exponent) (hrest : NoDigit rest) :
    NoDigit (exponent ++ rest) := by
  cases h with
  | none => exact hrest
  | mark _ _ =>
    rintro p ⟨⟩
    decide

/-- The sign of a number is found. -/
lemma minusLength_append (hsign : IsSign sign) (hwhole : IsWhole whole) :
    minusLength (sign ++ (whole ++ rest)) = sign.length := by
  cases hsign with
  | minus => rfl
  | none =>
    obtain ⟨p, t, rfl, hp⟩ := hwhole.exists_cons
    unfold minusLength
    split
    · rename_i heq
      cases heq
      exact absurd hp (by decide)
    · rfl

/-- The digits before the point are found. -/
lemma wholeDigits_append (hwhole : IsWhole whole) (hrest : NoDigit rest) :
    wholeDigits (whole ++ rest) = whole := by
  cases hwhole with
  | zero => rfl
  | digits hfirst hzero ht =>
    rw [List.cons_append, wholeDigits, if_neg (Bool.eq_false_iff.1 hzero),
      ← List.cons_append]
    apply takeWhile_isDigit_append _ hrest
    intro q hq
    rcases List.mem_cons.1 hq with rfl | hq
    · exact hfirst
    · exact ht q hq

/-- Digits have a length. -/
lemma length_pos_of_isDigits (h : IsDigits t) : t.length ≠ 0 :=
  fun hzero => h.ne_nil (List.length_eq_zero_iff.1 hzero)

/-- The fraction of a number is found. -/
lemma fractionLength_append (hfraction : IsFraction fraction) (hrest : NoDigit rest)
    (hpoint : ∀ p ∈ rest.head?, p.isChar '.' = false) :
    fractionLength (fraction ++ rest) = fraction.length := by
  cases hfraction with
  | none =>
    unfold fractionLength
    split
    · rename_i heq
      cases heq
      exact absurd (hpoint _ rfl) (by decide)
    · rfl
  | point h =>
    rw [List.cons_append, fractionLength, takeWhile_isDigit_append h.digits hrest]
    exact if_neg (length_pos_of_isDigits h)

/-- The exponent of a number is found. -/
lemma exponentLength_append (hexponent : IsExponent exponent) (hrest : Stops rest) :
    exponentLength (exponent ++ rest) = exponent.length := by
  cases hexponent with
  | none =>
    cases rest with
    | nil => rfl
    | cons p rest =>
      obtain ⟨-, -, he, hE⟩ := hrest p rfl
      rw [List.nil_append, exponentLength, he, hE]
      rfl
  | @mark sign t hsign h =>
    have hlength : signLength (.scalar sign :: (t ++ rest)) = 1 := by
      rcases hsign with rfl | rfl <;> rfl
    simp only [List.cons_append, exponentLength, hlength, List.drop_succ_cons, List.drop_zero,
      takeWhile_isDigit_append h.digits hrest.noDigit]
    refine (if_pos rfl).trans ((if_neg (length_pos_of_isDigits h)).trans ?_)
    rw [List.length_cons, List.length_cons]
    omega

/-- The parts of a number are found whatever follows it. -/
lemma numeral?_append (hsign : IsSign sign) (hwhole : IsWhole whole)
    (hfraction : IsFraction fraction) (hexponent : IsExponent exponent) (hrest : Stops rest) :
    numeral? (sign ++ (whole ++ (fraction ++ (exponent ++ rest)))) =
      some
        { negative := sign.length == 1
          whole := whole
          places := fraction.drop 1
          power := exponentValue exponent
          isWhole := fraction.length == 0 && exponent.length == 0
          size := sign.length + whole.length + fraction.length + exponent.length } := by
  have hafter : NoDigit (exponent ++ rest) := hexponent.noDigit hrest.noDigit
  have hpoint : ∀ p ∈ (exponent ++ rest).head?, p.isChar '.' = false := by
    cases hexponent with
    | none => exact fun p hp => (hrest p hp).2.1
    | mark _ _ =>
      rintro p ⟨⟩
      decide
  obtain ⟨p, t, hcons, -⟩ := hwhole.exists_cons
  unfold numeral?
  rw [minusLength_append hsign hwhole]
  simp only [List.drop_left, wholeDigits_append hwhole (hfraction.noDigit hafter)]
  rw [← List.length_append, ← List.append_assoc sign whole]
  simp only [List.drop_left, fractionLength_append hfraction hafter hpoint, List.take_left,
    exponentLength_append hexponent hrest]
  rw [if_neg (by rw [hcons]; exact Bool.false_ne_true), List.length_append]

/-! ## Reading a number -/

/-- A digit is none of the other characters. -/
lemma ne_of_isDigit {p : CodePoint} {c : Char} (hp : isDigit p = true)
    (hc : isDigit (.scalar c) = false) : CodePoint.scalar c ≠ p := by
  rintro rfl
  rw [hc] at hp
  cases hp

/-- The first two characters of a value word are no digits. -/
lemma isDigit_of_mem_literals : ∀ row ∈ literals, ∀ i < 2,
    (Text.ofString row.1)[i]?.map isDigit = some false := by
  decide

/-- A text with a digit in one of the first two places does not begin with a value word. -/
lemma literal?_eq_none {p : CodePoint} {i : Nat} (hi : i < 2) (ht : t[i]? = some p)
    (hp : isDigit p = true) : literal? t = none := by
  rw [literal?, Option.map_eq_none_iff, List.find?_eq_none]
  intro row hrow hstarts
  obtain ⟨rest, rfl⟩ := List.isPrefixOf_iff_prefix.1 hstarts
  obtain ⟨q, hq, hother⟩ := Option.map_eq_some_iff.1 (isDigit_of_mem_literals row hrow i hi)
  rw [List.getElem?_append_left (List.getElem?_eq_some_iff.1 hq).1, hq] at ht
  cases ht
  rw [hp] at hother
  cases hother

/-- No number begins with a value word. -/
lemma literal?_append (hsign : IsSign sign) (hwhole : IsWhole whole) :
    literal? (sign ++ (whole ++ rest)) = none := by
  obtain ⟨p, t, rfl, hp⟩ := hwhole.exists_cons
  cases hsign with
  | none => exact literal?_eq_none (Nat.zero_lt_succ 1) rfl hp
  | minus => exact literal?_eq_none Nat.one_lt_two rfl hp

/-- The text is read as the value, whatever follows. -/
def ReadsAs (t : Text) (v : Json) : Prop :=
  ∀ position rest, Stops rest →
    readScalar position (t ++ rest) = .ok (v, ⟨position + t.length, rest⟩)

/-- A value that is neither a string nor a word is read as a number. -/
lemma readScalar_of_numeral? (position : Nat) {n : Numeral} {v : Json}
    (hquote : ∀ p ∈ t.head?, p.isChar '"' = false) (hliteral : literal? t = none)
    (hn : numeral? t = some n) (hv : n.value = .ok v) :
    readScalar position t = .ok (v, ⟨position + n.size, t.drop n.size⟩) := by
  cases t with
  | nil => cases hn
  | cons p t =>
    rw [readScalar, hquote p rfl]
    simp only [Bool.false_eq_true, if_false, hliteral, hn, hv]

/-- Every number is read as a whole, whatever follows. -/
lemma IsNumeral.exists_readsAs (h : IsNumeral t) : ∃ v, ReadsAs t v := by
  obtain ⟨hsign, hwhole, hfraction, hexponent, hlimit⟩ := h
  rename_i sign whole fraction exponent
  -- the value depends on the parts of the number only
  have hvalue : ∃ v, Numeral.value
      { negative := sign.length == 1
        whole := whole
        places := fraction.drop 1
        power := exponentValue exponent
        isWhole := fraction.length == 0 && exponent.length == 0
        size := sign.length + whole.length + fraction.length + exponent.length } = .ok v := by
    unfold Numeral.value
    split
    · rename_i hnone
      simp only [Bool.and_eq_true, beq_iff_eq, List.length_eq_zero_iff] at hnone
      rw [if_neg (Nat.not_lt_of_le (hlimit hnone.1 hnone.2))]
      exact ⟨_, rfl⟩
    · exact ⟨_, rfl⟩
  obtain ⟨v, hv⟩ := hvalue
  refine ⟨v, fun position rest hrest => ?_⟩
  have hquote : ∀ p ∈ (sign ++ (whole ++ (fraction ++ (exponent ++ rest)))).head?,
      p.isChar '"' = false := by
    obtain ⟨q, t, rfl, hq⟩ := hwhole.exists_cons
    cases hsign with
    | minus =>
      rintro p ⟨⟩
      decide
    | none =>
      rintro p ⟨⟩
      rw [CodePoint.isChar, beq_eq_false_iff_ne]
      exact (ne_of_isDigit hq (by decide)).symm
  have hread := readScalar_of_numeral? position hquote (literal?_append hsign hwhole)
    (numeral?_append hsign hwhole hfraction hexponent hrest) hv
  have hlength : (sign ++ (whole ++ (fraction ++ exponent))).length =
      sign.length + whole.length + fraction.length + exponent.length := by
    simp only [List.length_append]
    omega
  simp only [← hlength] at hread
  simp only [← List.append_assoc, List.drop_left] at hread ⊢
  exact hread

/-! ## Whole numbers -/

/-- Digits as characters are digits as code points. -/
lemma isDigit_scalar_of_isDigit {c : Char} (h : c.isDigit = true) : isDigit (.scalar c) = true := by
  simp only [Char.isDigit, Bool.and_eq_true, decide_eq_true_eq] at h
  rw [isDigit, decimalDigit?, if_pos (show '0' ≤ c ∧ c ≤ '9' from h)]
  rfl

/-- The digits of a number are digits. -/
lemma isDigit_of_mem_toDigits {n : Nat} {p : CodePoint}
    (h : p ∈ Text.ofChars (Nat.toDigits 10 n)) : isDigit p = true := by
  obtain ⟨c, hc, rfl⟩ := List.mem_map.1 h
  exact isDigit_scalar_of_isDigit
    (Nat.isDigit_of_mem_toDigits (by decide) (Nat.le_refl 10) hc)

/-- Only zero is written as a zero. -/
lemma digitChar_ne_zero : ∀ k < 10, 0 < k → Nat.digitChar k ≠ '0' := by
  decide

/-- The first digit of a positive number is not zero. -/
lemma head?_toDigits_ne {n : Nat} (h : 0 < n) : (Nat.toDigits 10 n).head? ≠ some '0' := by
  induction n using Nat.strongRecOn with
  | ind n ih =>
    by_cases hn : n < 10
    · rw [Nat.toDigits_of_lt_base hn, List.head?_cons]
      exact fun heq => digitChar_ne_zero n hn h (Option.some.inj heq)
    · rw [Nat.toDigits_of_base_le (by decide) (Nat.le_of_not_lt hn),
        List.head?_append_of_ne_nil _ Nat.toDigits_ne_nil]
      exact ih (n / 10) (by omega) (by omega)

/-- The digits of a number can stand before the point. -/
lemma isWhole_toDigits (n : Nat) : IsWhole (Text.ofChars (Nat.toDigits 10 n)) := by
  by_cases hn : n = 0
  · subst hn
    exact .zero
  · have hhead := head?_toDigits_ne (Nat.pos_of_ne_zero hn)
    have hdigits : ∀ p ∈ Text.ofChars (Nat.toDigits 10 n), isDigit p = true :=
      fun p => isDigit_of_mem_toDigits
    obtain ⟨c, cs, hcons⟩ := List.exists_cons_of_ne_nil (@Nat.toDigits_ne_nil n 10)
    rw [hcons] at hhead hdigits ⊢
    refine .digits (hdigits _ List.mem_cons_self) ?_
      fun q hq => hdigits q (List.mem_cons_of_mem _ hq)
    rw [CodePoint.isChar, beq_eq_false_iff_ne]
    exact fun heq => hhead (congrArg some (CodePoint.scalar.inj heq))

/-- A whole number is written as its sign and its digits. -/
lemma isNumeral_int {n : Int} (h : (Nat.toDigits 10 n.natAbs).length ≤ digitLimit) :
    IsNumeral (Text.ofChars (writeChars (.int n))) := by
  cases n with
  | ofNat m =>
    have hchars : writeChars (.int (.ofNat m)) = Nat.toDigits 10 m := by
      show (toString m).toList = _
      rw [Nat.toString_eq_ofList_toDigits, String.toList_ofList]
    rw [hchars]
    have hnumeral := IsNumeral.intro .none (isWhole_toDigits m) .none .none
      fun _ _ => (Text.length_ofChars _).le.trans h
    simpa using hnumeral
  | negSucc m =>
    have hchars : writeChars (.int (.negSucc m)) = '-' :: Nat.toDigits 10 (m + 1) := by
      show ("-" ++ toString (m + 1)).toList = _
      rw [String.toList_append, Nat.toString_eq_ofList_toDigits]
      simp only [String.toList_ofList]
      rfl
    rw [hchars]
    have hnumeral := IsNumeral.intro .minus (isWhole_toDigits (m + 1)) .none .none
      fun _ _ => (Text.length_ofChars _).le.trans h
    simpa using hnumeral

/-! ## Floating-point numbers -/

open Decimal (showDigits digitsOf onGrid? shortest shortestBelow)

/-- Digits as a text. -/
def digitText (ds : List Nat) : Text :=
  Text.ofChars (showDigits ds).toList

/-- Digits are written one by one. -/
lemma digitText_eq (ds : List Nat) :
    digitText ds = ds.map fun d => CodePoint.scalar (Char.ofNat (d + '0'.toNat)) := by
  rw [digitText, showDigits, String.toList_ofList, Text.ofChars, List.map_map]
  rfl

/-- A number below ten is written as a digit. -/
lemma isDigit_ofNat : ∀ d < 10, isDigit (.scalar (Char.ofNat (d + '0'.toNat))) = true := by
  decide

/-- A number below ten that is not zero is not written as a zero. -/
lemma isChar_ofNat : ∀ d < 10, d ≠ 0 →
    (CodePoint.scalar (Char.ofNat (d + '0'.toNat))).isChar '0' = false := by
  decide

/-- Digits are written as digits. -/
lemma isDigit_of_mem_digitText {ds : List Nat} (h : ∀ d ∈ ds, d < 10) :
    ∀ p ∈ digitText ds, isDigit p = true := by
  rw [digitText_eq, List.forall_mem_map]
  exact fun d hd => isDigit_ofNat d (h d hd)

/-- Digits, at least one, are written as digits, at least one. -/
lemma isDigits_digitText {ds : List Nat} (hne : ds ≠ []) (h : ∀ d ∈ ds, d < 10) :
    IsDigits (digitText ds) := by
  refine ⟨?_, isDigit_of_mem_digitText h⟩
  rw [digitText_eq]
  exact mt List.map_eq_nil_iff.1 hne

/-- Decimal digits that begin with one that is not zero. -/
structure Significant (ds : List Nat) : Prop where
  digits : ∀ d ∈ ds, d < 10
  head : ∃ d rest, ds = d :: rest ∧ d ≠ 0

/-- There is at least one digit. -/
lemma Significant.ne_nil {ds : List Nat} (h : Significant ds) : ds ≠ [] := by
  obtain ⟨d, rest, rfl, -⟩ := h.head
  exact List.cons_ne_nil d rest

/-- Significant digits can stand before the point. -/
lemma Significant.isWhole {ds : List Nat} (h : Significant ds) : IsWhole (digitText ds) := by
  obtain ⟨d, rest, rfl, hd⟩ := h.head
  have hall := isDigit_of_mem_digitText h.digits
  rw [digitText_eq, List.map_cons] at hall ⊢
  exact .digits (hall _ List.mem_cons_self) (isChar_ofNat d (h.digits d List.mem_cons_self) hd)
    fun q hq => hall q (List.mem_cons_of_mem _ hq)

/-- A digit stands for a number below ten. -/
lemma toNat_lt_of_isDigit {c : Char} (h : c.isDigit = true) : c.toNat - '0'.toNat < 10 := by
  simp only [Char.isDigit, Bool.and_eq_true, decide_eq_true_eq, UInt32.le_iff_toNat_le] at h
  have hle : c.toNat ≤ 57 := h.2
  show c.toNat - 48 < 10
  omega

/-- The digits of a positive number are significant. -/
lemma significant_digitsOf {n : Nat} (h : 0 < n) : Significant (digitsOf n) := by
  have hhead := head?_toDigits_ne h
  have hdigits : ∀ c ∈ Nat.toDigits 10 n, c.isDigit = true :=
    fun c hc => Nat.isDigit_of_mem_toDigits (by decide) (Nat.le_refl 10) hc
  obtain ⟨c, cs, hcons⟩ := List.exists_cons_of_ne_nil (@Nat.toDigits_ne_nil n 10)
  rw [digitsOf]
  refine ⟨List.forall_mem_map.2 fun c hc => toNat_lt_of_isDigit (hdigits c hc), ?_⟩
  rw [hcons] at hhead hdigits ⊢
  refine ⟨_, _, rfl, fun hzero => hhead ?_⟩
  have hc := hdigits c List.mem_cons_self
  simp only [Char.isDigit, Bool.and_eq_true, decide_eq_true_eq, UInt32.le_iff_toNat_le] at hc
  have hge : 48 ≤ c.toNat := hc.1
  replace hzero : c.toNat - 48 = 0 := hzero
  have heq : c.toNat = '0'.toNat := show c.toNat = 48 by omega
  rw [List.head?_cons, Char.toNat_inj.1 heq]

/-- A candidate has the digits of a positive number. -/
lemma exists_of_onGrid? {b : Decimal.Binary} {point : Int} {count : Nat} {d : Decimal.Digits}
    (h : onGrid? b point count = some d) : ∃ n, 0 < n ∧ d.digits = digitsOf n := by
  unfold onGrid? at h
  simp only at h
  split at h
  · rename_i hbelow _
    rw [Bool.and_eq_true, decide_eq_true_eq] at hbelow
    split at h
    · exact ⟨_, hbelow.1, by rw [← Option.some.inj h]⟩
    · split at h
      · exact ⟨_, Nat.succ_pos _, by rw [← Option.some.inj h]⟩
      · split at h
        · exact ⟨_, hbelow.1, by rw [← Option.some.inj h]⟩
        · exact ⟨_, Nat.succ_pos _, by rw [← Option.some.inj h]⟩
  · rename_i hbelow _
    rw [Bool.and_eq_true, decide_eq_true_eq] at hbelow
    exact ⟨_, hbelow.1, by rw [← Option.some.inj h]⟩
  · exact ⟨_, Nat.succ_pos _, by rw [← Option.some.inj h]⟩
  · cases h

/-- Dropping the zeros at the end keeps the first digit. -/
lemma Significant.dropZeros {ds : List Nat} (h : Significant ds) :
    Significant (ds.reverse.dropWhile (· == 0)).reverse := by
  obtain ⟨d, rest, rfl, hd⟩ := h.head
  have hkept : List.rdropWhile (· == 0) (d :: rest) <+: d :: rest := List.rdropWhile_prefix _ _
  refine ⟨fun e he => h.digits e (hkept.subset he), ?_⟩
  have hne : List.rdropWhile (· == 0) (d :: rest) ≠ [] := by
    rw [ne_eq, List.rdropWhile_eq_nil_iff]
    exact fun hall => hd (beq_iff_eq.1 (hall d List.mem_cons_self))
  obtain ⟨e, kept, hcons⟩ := List.exists_cons_of_ne_nil hne
  rw [hcons, List.cons_prefix_cons] at hkept
  exact ⟨e, kept, hcons, hkept.1 ▸ hd⟩

/-- The shortest digits below a place are significant, or a single zero. -/
lemma shortestBelow_eq (b : Decimal.Binary) (point : Int) :
    Significant (shortestBelow b point).digits ∨ shortestBelow b point = ⟨[0], 1⟩ := by
  unfold shortestBelow
  split
  · rename_i d hd
    obtain ⟨i, -, hgrid⟩ := List.exists_of_findSome?_eq_some hd
    obtain ⟨n, hn, hdigits⟩ := exists_of_onGrid? hgrid
    rw [hdigits]
    exact .inl (significant_digitsOf hn).dropZeros
  · exact .inr rfl

/-- The shortest digits are significant, or a single zero. -/
lemma shortest_eq (b : Decimal.Binary) :
    Significant (shortest b).digits ∨ shortest b = ⟨[0], 1⟩ := by
  unfold shortest
  exact shortestBelow_eq b _

/-- More digits leave significant digits significant. -/
lemma Significant.append {ds es : List Nat} (h : Significant ds) (hes : ∀ e ∈ es, e < 10) :
    Significant (ds ++ es) := by
  obtain ⟨d, rest, rfl, hd⟩ := h.head
  refine ⟨fun e he => ?_, d, rest ++ es, rfl, hd⟩
  rcases List.mem_append.1 he with he | he
  · exact h.digits e he
  · exact hes e he

/-- The first of significant digits are significant. -/
lemma Significant.take {ds : List Nat} {n : Nat} (h : Significant ds) (hn : 0 < n) :
    Significant (ds.take n) := by
  obtain ⟨d, rest, rfl, hd⟩ := h.head
  obtain ⟨k, rfl⟩ := Nat.exists_eq_add_of_lt hn
  exact ⟨fun e he => h.digits e (List.mem_of_mem_take he), d, rest.take _, rfl, hd⟩

/-- Zeros are digits. -/
lemma lt_of_mem_replicate_zero {n d : Nat} (h : d ∈ List.replicate n 0) : d < 10 := by
  rw [List.eq_of_mem_replicate h]
  decide

/-- The exponent of a number is written in digits, with zeros in front. -/
lemma isDigits_exponent (width n : Nat) :
    IsDigits (Text.ofChars (List.replicate width '0' ++ Nat.toDigits 10 n)) := by
  refine ⟨?_, fun p hp => ?_⟩
  · rw [Text.ofChars_append]
    exact List.append_ne_nil_of_right_ne_nil _ (mt List.map_eq_nil_iff.1 Nat.toDigits_ne_nil)
  · rw [Text.ofChars_append, List.mem_append] at hp
    rcases hp with hp | hp
    · obtain ⟨c, hc, rfl⟩ := List.mem_map.1 hp
      rw [List.eq_of_mem_replicate hc]
      rfl
    · exact isDigit_of_mem_toDigits hp

/-- A number with a fraction has no limit on its digits. -/
lemma IsNumeral.of_point (hsign : IsSign sign) (hwhole : IsWhole whole) (ht : IsDigits t) :
    IsNumeral (sign ++ (whole ++ .scalar '.' :: t)) := by
  have hnumeral := IsNumeral.intro hsign hwhole (.point ht) .none
    fun hnil => absurd hnil (List.cons_ne_nil _ _)
  rwa [List.append_nil] at hnumeral

/-- All digits but the first make a fraction. -/
lemma isFraction_tail {ds : List Nat} (h : ∀ d ∈ ds, d < 10) :
    IsFraction
      (Text.ofChars (if ds.length ≤ 1 then "" else "." ++ showDigits (ds.drop 1)).toList) := by
  split
  · exact .none
  · rename_i hlength
    rw [String.toList_append, Text.ofChars_append]
    exact .point (isDigits_digitText (mt List.drop_eq_nil_iff.1 hlength)
      fun d hd => h d (List.mem_of_mem_drop hd))

/-- The text of a decimal, after a sign: digits about a point, or a digit with a power of ten. -/
lemma isNumeral_digits {d : Decimal.Digits} (h : Significant d.digits) (hsign : IsSign sign) :
    IsNumeral (sign ++ Text.ofChars (d.render Decimal.jsonLayout).toList) := by
  unfold Decimal.Digits.render
  simp only
  split
  · split
    · -- `0.` and the digits, after zeros
      have hdigits : IsDigits (digitText (List.replicate (-d.point).toNat 0 ++ d.digits)) := by
        refine isDigits_digitText (List.append_ne_nil_of_right_ne_nil _ h.ne_nil) fun e he => ?_
        rcases List.mem_append.1 he with he | he
        · exact lt_of_mem_replicate_zero he
        · exact h.digits e he
      have hnumeral := IsNumeral.of_point hsign .zero hdigits
      rw [String.toList_append, Text.ofChars_append]
      exact hnumeral
    · split
      · -- the digits, zeros after them, and `.0`
        rw [String.toList_append, Text.ofChars_append]
        exact .of_point hsign (h.append fun _ => lt_of_mem_replicate_zero).isWhole
          (isDigits_digitText (List.cons_ne_nil 0 []) (by decide))
      · -- the point stands between two digits
        rw [String.toList_append, String.toList_append, Text.ofChars_append, Text.ofChars_append,
          List.append_assoc]
        refine .of_point hsign (h.take (by omega)).isWhole
          (isDigits_digitText ?_ fun e he => h.digits e (List.mem_of_mem_drop he))
        rw [ne_eq, List.drop_eq_nil_iff]
        omega
  · -- one digit, the others after the point, and the power of ten
    obtain ⟨c, hc, hmark⟩ : ∃ c, (c = '+' ∨ c = '-') ∧
        (if d.point - 1 < 0 then "e-" else "e+").toList = ['e', c] := by
      split
      · exact ⟨'-', .inr rfl, rfl⟩
      · exact ⟨'+', .inl rfl, rfl⟩
    generalize Decimal.jsonLayout.exponentWidth - (toString (d.point - 1).natAbs).length = width
    have hexponent := IsExponent.mark hc (isDigits_exponent width (d.point - 1).natAbs)
    have hnumeral := IsNumeral.intro hsign (h.take Nat.one_pos).isWhole (isFraction_tail h.digits)
      hexponent fun _ hnil => absurd hnil (List.cons_ne_nil _ _)
    simp only [Text.ofChars_append] at hnumeral
    simp only [String.toList_append, Text.ofChars_append, List.append_assoc, hmark,
      Nat.toString_eq_ofList_toDigits, String.toList_ofList]
    exact hnumeral

/-- The text of a finite floating-point number is a number, those of the others are words. -/
lemma isNumeral_or_literal (x : Float) :
    IsNumeral (Text.ofChars (writeChars (.float x))) ∨
      ∃ row ∈ literals, Text.ofChars (writeChars (.float x)) = Text.ofString row.1 := by
  have hchars : writeChars (.float x) = (Decimal.render Decimal.jsonLayout x).toList := rfl
  rw [hchars, Decimal.render]
  split
  · exact .inr ⟨literals[3], List.getElem_mem _, rfl⟩
  · rename_i negative _
    cases negative with
    | false => exact .inr ⟨literals[4], List.getElem_mem _, rfl⟩
    | true => exact .inr ⟨literals[5], List.getElem_mem _, rfl⟩
  · rename_i negative b _
    have hsign : IsSign (Text.ofChars (if negative = true then "-" else "").toList) := by
      cases negative with
      | false => exact .none
      | true => exact .minus
    rw [String.toList_append, Text.ofChars_append]
    generalize (if negative = true then "-" else "").toList = sign at hsign ⊢
    left
    split
    · exact .of_point hsign .zero (isDigits_digitText (List.cons_ne_nil 0 []) (by decide))
    · rcases shortest_eq b with h | h
      · exact isNumeral_digits h hsign
      · rw [h]
        exact .of_point hsign .zero (isDigits_digitText (List.cons_ne_nil 0 []) (by decide))

end Json

end ContractAudit
