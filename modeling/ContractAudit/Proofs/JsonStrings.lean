import ContractAudit.Json.Reader
import ContractAudit.Json.Writer
import Mathlib.Tactic.Lemma

/-!
# Strings of JSON texts

A string is written in ASCII, and reading undoes every escape. A text may hold the two halves of a
surrogate pair one after the other; in escapes they cannot be told from the character that they
spell, so reading puts them together (`Text.rejoined`). A text of characters comes back as it was.
The main statement is `readString_flatMap_escapePoint`.
-/

namespace ContractAudit

namespace CodePoint

/-- A code point is the one of its number. -/
lemma ofNatD_value (p : CodePoint) : ofNatD p.value = p := by
  cases p with
  | scalar c =>
    have hvalid : c.toNat.isValidChar := c.valid
    rw [ofNatD, value, ofNat?, dif_pos hvalid]
    rfl
  | surrogate i =>
    have hi := i.isLt
    have hinvalid : ¬ (0xD800 + i.val).isValidChar := by
      unfold Nat.isValidChar
      omega
    have hlt : 0xD800 + i.val - 0xD800 < 2048 := by omega
    rw [ofNatD, value, ofNat?, dif_neg hinvalid, if_pos (Nat.le_add_right _ _), dif_pos hlt]
    simp only [Option.getD_some, Nat.add_sub_cancel_left]

/-- A code point is known by its number. -/
lemma value_injective {p q : CodePoint} (h : p.value = q.value) : p = q := by
  rw [← ofNatD_value p, h, ofNatD_value]

/-- No code point is numbered beyond the last plane. -/
lemma value_lt (p : CodePoint) : p.value < 0x110000 := by
  cases p with
  | scalar c =>
    have hvalid : c.toNat.isValidChar := c.valid
    unfold Nat.isValidChar at hvalid
    rw [value]
    omega
  | surrogate i =>
    have hi := i.isLt
    rw [value]
    omega

end CodePoint

open BodyEncoding (isHigh isLow joinSurrogates)

/-- The characters of a text. -/
def Text.ofChars (cs : List Char) : Text :=
  cs.map .scalar

/-- No characters make an empty text. -/
@[simp] lemma Text.ofChars_nil : Text.ofChars [] = [] := rfl

/-- Characters are code points one by one. -/
@[simp] lemma Text.ofChars_cons (c : Char) (cs : List Char) :
    Text.ofChars (c :: cs) = .scalar c :: Text.ofChars cs := rfl

/-- Characters of two lists are code points of two texts. -/
@[simp] lemma Text.ofChars_append (cs ds : List Char) :
    Text.ofChars (cs ++ ds) = Text.ofChars cs ++ Text.ofChars ds :=
  List.map_append

/-- There is one code point for each character. -/
@[simp] lemma Text.length_ofChars (cs : List Char) : (Text.ofChars cs).length = cs.length :=
  List.length_map _

/-- A text in which every high surrogate is put together with a low one that follows. -/
def Text.rejoined : Text → Text
  | p :: q :: rest =>
    if isHigh p.value && isLow q.value then joinSurrogates p.value q.value :: rejoined rest
    else p :: rejoined (q :: rest)
  | t => t

namespace Json

/-! ## Hexadecimal digits -/

/-- A number in hexadecimal digits of a least width. -/
def hexDigits (width n : Nat) : List Char :=
  List.replicate (width - (Nat.toDigits 16 n).length) '0' ++ Nat.toDigits 16 n

/-- Padded hexadecimal numbers are their digits. -/
lemma toList_hex (width n : Nat) : (Utf8.hex width n).toList = hexDigits width n :=
  String.toList_ofList

/-- The last hexadecimal digit is the remainder. -/
lemma hexDigits_succ {width : Nat} (n : Nat) (hwidth : 0 < width) :
    hexDigits (width + 1) n = hexDigits width (n / 16) ++ [Nat.digitChar (n % 16)] := by
  unfold hexDigits
  by_cases hn : n < 16
  · obtain ⟨w, rfl⟩ : ∃ w, width = w + 1 := ⟨width - 1, by omega⟩
    rw [Nat.toDigits_of_lt_base hn, Nat.div_eq_of_lt hn, Nat.mod_eq_of_lt hn, Nat.toDigits_zero]
    simp only [List.length_singleton, Nat.add_sub_cancel, List.replicate_succ',
      List.append_assoc, List.nil_append, List.cons_append]
  · rw [Nat.toDigits_of_base_le (by decide) (Nat.le_of_not_lt hn), List.length_append,
      List.length_singleton, Nat.add_sub_add_right, List.append_assoc]

/-- The four hexadecimal digits of a number that has no more. -/
lemma hexDigits_four (n : Nat) (h : n < 0x10000) :
    hexDigits 4 n = [Nat.digitChar (n / 16 / 16 / 16), Nat.digitChar (n / 16 / 16 % 16),
      Nat.digitChar (n / 16 % 16), Nat.digitChar (n % 16)] := by
  have hfirst : n / 16 / 16 / 16 < 16 := by omega
  rw [hexDigits_succ n (by decide), hexDigits_succ (n / 16) (by decide),
    hexDigits_succ (n / 16 / 16) (by decide)]
  unfold hexDigits
  rw [Nat.toDigits_of_lt_base hfirst]
  rfl

/-- A hexadecimal digit is read as the number it is written for. -/
lemma hexDigit?_digitChar : ∀ k < 16, hexDigit? (.scalar (Nat.digitChar k)) = some k := by
  decide

/-- The four digits of an escape read as its number. -/
lemma exists_unicodeEscape_eq {n : Nat} (h : n < 0x10000) :
    ∃ a b c d, unicodeEscape n = ['\\', 'u', a, b, c, d] ∧
      hexValue? (.scalar a) (.scalar b) (.scalar c) (.scalar d) = some n := by
  refine ⟨_, _, _, _, by rw [unicodeEscape, toList_hex, hexDigits_four n h], ?_⟩
  simp only [hexValue?, hexDigit?_digitChar _ (show n / 16 / 16 / 16 < 16 by omega),
    hexDigit?_digitChar _ (Nat.mod_lt _ (show 0 < 16 by decide)), Option.bind_eq_bind,
    Option.bind_some, Option.pure_def, Option.some.injEq]
  omega

/-! ## The shapes of an escape -/

/-- The number of the first of two surrogates that spell a character beyond four digits. -/
def highHalf (n : Nat) : Nat :=
  0xD800 + (n - 0x10000) / 0x400

/-- The number of the second of them. -/
def lowHalf (n : Nat) : Nat :=
  0xDC00 + (n - 0x10000) % 0x400

/-- How a code point stands in a string: behind a backslash, as itself, or in one or two escapes of
four digits. -/
inductive Escaped (p : CodePoint) : List Char → Prop where
  | simple (e : Char) (hu : e ≠ 'u') (he : simpleEscape? (.scalar e) = some p) :
      Escaped p ['\\', e]
  | plain (c : Char) (hp : p = .scalar c) (hquote : c ≠ '"') (hslash : c ≠ '\\')
      (hcontrol : 0x1F < c.toNat) : Escaped p [c]
  | unicode (h : p.value < 0x10000) : Escaped p (unicodeEscape p.value)
  | pair (h : 0x10000 ≤ p.value) :
      Escaped p (unicodeEscape (highHalf p.value) ++ unicodeEscape (lowHalf p.value))

/-- A code point is known by its number in a short escape too. -/
lemma simpleEscape?_eq {p : CodePoint} {n : Nat} {e : Char} (h : p.value = n)
    (he : simpleEscape? (.scalar e) = some (.ofNatD n)) : simpleEscape? (.scalar e) = some p := by
  rw [he, ← h, CodePoint.ofNatD_value]

/-- Every code point is written in one of the shapes. -/
lemma escaped_escapePoint (p : CodePoint) : Escaped p (escapePoint p) := by
  unfold escapePoint
  dsimp only
  split
  · exact .simple '"' (by decide) (simpleEscape?_eq ‹_› (by decide))
  split
  · exact .simple '\\' (by decide) (simpleEscape?_eq ‹_› (by decide))
  split
  · exact .simple 'n' (by decide) (simpleEscape?_eq ‹_› (by decide))
  split
  · exact .simple 'r' (by decide) (simpleEscape?_eq ‹_› (by decide))
  split
  · exact .simple 't' (by decide) (simpleEscape?_eq ‹_› (by decide))
  split
  · exact .simple 'f' (by decide) (simpleEscape?_eq ‹_› (by decide))
  split
  · exact .simple 'b' (by decide) (simpleEscape?_eq ‹_› (by decide))
  split
  · rename_i hquote hslash _ _ _ _ _ hplain
    have hvalid : p.value.isValidChar := .inl (by omega)
    have htoNat : (Char.ofNat p.value).toNat = p.value := by
      rw [Char.ofNat, dif_pos hvalid]
      rfl
    refine .plain _ (CodePoint.value_injective htoNat.symm) ?_ ?_ (by omega)
    · intro h
      exact hquote (by rw [← htoNat, h]; rfl)
    · intro h
      exact hslash (by rw [← htoNat, h]; rfl)
  split
  · exact .unicode ‹_›
  · exact .pair (Nat.le_of_not_lt ‹_›)

/-! ## Reading an escape -/

/-- The numbers of high surrogates. -/
lemma isHigh_iff {n : Nat} : isHigh n = true ↔ 0xD800 ≤ n ∧ n ≤ 0xDBFF := by
  simp only [isHigh, Bool.and_eq_true, decide_eq_true_eq]

/-- The numbers of low surrogates. -/
lemma isLow_iff {n : Nat} : isLow n = true ↔ 0xDC00 ≤ n ∧ n ≤ 0xDFFF := by
  simp only [isLow, Bool.and_eq_true, decide_eq_true_eq]

variable {start position : Nat} {done t : Text} {p : CodePoint}

/-- A text does not begin with the escape of a low surrogate. -/
def NoLowEscape (t : Text) : Prop :=
  ∀ v rest, lowEscape? t = some (v, rest) → ∃ m, v = some m ∧ isLow m = false

/-- An escape of four digits is read as its code point, if no low surrogate follows a high one. -/
lemma readUnicodeEscape_of_noLowEscape (position : Nat) {n : Nat} {a b c d : CodePoint}
    (hn : hexValue? a b c d = some n) (ht : t ≠ [])
    (hlow : isHigh n = true → NoLowEscape t) :
    readUnicodeEscape position (a :: b :: c :: d :: t) = .ok (.ofNatD n, ⟨position + 6, t⟩) := by
  obtain ⟨q, rest, rfl⟩ := List.exists_cons_of_ne_nil ht
  simp only [readUnicodeEscape, hn]
  split
  · rename_i hhigh
    split
    · rfl
    · rename_i hnone
      obtain ⟨m, hm, -⟩ := hlow hhigh _ _ hnone
      cases hm
    · rename_i m rest' hsome
      obtain ⟨m', hm, hother⟩ := hlow hhigh _ _ hsome
      cases hm
      rw [if_neg (Bool.eq_false_iff.1 hother)]
  · rfl

/-- The escapes of a high and a low surrogate are read as one character. -/
lemma readUnicodeEscape_pair (position : Nat) {m n : Nat} {a b c d e f g h : CodePoint}
    (hn : hexValue? a b c d = some n) (hm : hexValue? e f g h = some m) (hhigh : isHigh n = true)
    (hlow : isLow m = true) (ht : t ≠ []) :
    readUnicodeEscape position
        (a :: b :: c :: d :: .scalar '\\' :: .scalar 'u' :: e :: f :: g :: h :: t) =
      .ok (joinSurrogates n m, ⟨position + 12, t⟩) := by
  obtain ⟨q, rest, rfl⟩ := List.exists_cons_of_ne_nil ht
  simp only [readUnicodeEscape, hn, hhigh, if_true, lowEscape?, hm, hlow]

/-- Reading goes on after an escape of four digits or two of them. -/
lemma readString_unicode {q : CodePoint} {c : Cursor} {rest : Text}
    (h : readUnicodeEscape position rest = .ok (q, c)) :
    readString start done position (.scalar '\\' :: .scalar 'u' :: rest) =
      readString start (q :: done) c.position c.rest := by
  rw [readString]
  simp only [CodePoint.isChar, beq_iff_eq, CodePoint.scalar.injEq, Char.reduceEq, if_false, if_true]
  split
  · rename_i e he
    rw [h] at he
    cases he
  · rename_i q' c' hc
    rw [h] at hc
    cases hc
    rfl

/-- Reading goes on after a short escape. -/
lemma readString_simple {e : Char} (hu : e ≠ 'u') (he : simpleEscape? (.scalar e) = some p) :
    readString start done position (.scalar '\\' :: .scalar e :: t) =
      readString start (p :: done) (position + 2) t := by
  rw [readString]
  simp only [CodePoint.isChar, beq_iff_eq, CodePoint.scalar.injEq, Char.reduceEq, if_false, if_true,
    hu, he]

/-- Reading goes on after a character that stands for itself. -/
lemma readString_plain {c : Char} (hquote : c ≠ '"') (hslash : c ≠ '\\')
    (hcontrol : 0x1F < c.toNat) :
    readString start done position (.scalar c :: t) =
      readString start (.scalar c :: done) (position + 1) t := by
  rw [readString.eq_def]
  simp only [CodePoint.isChar, beq_iff_eq, CodePoint.scalar.injEq, hquote, hslash, if_false,
    CodePoint.value, Nat.not_le_of_lt hcontrol]

/-- Reading ends at a quote. -/
lemma readString_quote :
    readString start done position (.scalar '"' :: t) = .ok (done.reverse, ⟨position + 1, t⟩) := by
  rw [readString.eq_def]
  rfl

/-- The first half of a character beyond four digits is a high surrogate. -/
lemma isHigh_highHalf (p : CodePoint) : isHigh (highHalf p.value) = true := by
  have hmost := p.value_lt
  rw [isHigh_iff, highHalf]
  omega

/-- The second half of a character beyond four digits is a low surrogate. -/
lemma isLow_lowHalf (p : CodePoint) : isLow (lowHalf p.value) = true := by
  rw [isLow_iff, lowHalf]
  omega

/-- The two halves are joined to the character. -/
lemma joinSurrogates_halves (h : 0x10000 ≤ p.value) :
    joinSurrogates (highHalf p.value) (lowHalf p.value) = p := by
  have hnumber : 0x10000 + (highHalf p.value - 0xD800) * 0x400 + (lowHalf p.value - 0xDC00) =
      p.value := by
    unfold highHalf lowHalf
    omega
  rw [joinSurrogates, hnumber, CodePoint.ofNatD_value]

/-- Where no low surrogate follows a high one, an escape reads as its code point. -/
lemma Escaped.readString_eq {cs : List Char} (h : Escaped p cs) (ht : t ≠ [])
    (hlow : isHigh p.value = true → NoLowEscape t) :
    readString start done position (Text.ofChars cs ++ t) =
      readString start (p :: done) (position + cs.length) t := by
  cases h with
  | simple e hu he => exact readString_simple hu he
  | plain c hp hquote hslash hcontrol =>
    subst hp
    exact readString_plain hquote hslash hcontrol
  | unicode hshort =>
    obtain ⟨a, b, c, d, hescape, hvalue⟩ := exists_unicodeEscape_eq hshort
    have hread := readUnicodeEscape_of_noLowEscape position hvalue ht hlow
    rw [hescape]
    refine (readString_unicode hread).trans ?_
    rw [CodePoint.ofNatD_value]
    rfl
  | pair hlong =>
    have hhigh := isHigh_highHalf p
    have hlow := isLow_lowHalf p
    obtain ⟨a, b, c, d, hescape, hvalue⟩ :=
      exists_unicodeEscape_eq (Nat.lt_of_le_of_lt (isHigh_iff.1 hhigh).2 (by decide))
    obtain ⟨a', b', c', d', hescape', hvalue'⟩ :=
      exists_unicodeEscape_eq (Nat.lt_of_le_of_lt (isLow_iff.1 hlow).2 (by decide))
    have hread := readUnicodeEscape_pair position hvalue hvalue' hhigh hlow ht
    rw [hescape, hescape']
    refine (readString_unicode hread).trans ?_
    rw [joinSurrogates_halves hlong]
    rfl

/-! ## Reading a string -/

/-- A closing quote is no escape. -/
lemma noLowEscape_quote : NoLowEscape (.scalar '"' :: t) := by
  intro v rest h
  cases h

/-- An escape of a code point that is no low surrogate is none of a low surrogate. -/
lemma Escaped.noLowEscape {cs : List Char} (h : Escaped p cs) (ht : t ≠ [])
    (hlow : isLow p.value = false) : NoLowEscape (Text.ofChars cs ++ t) := by
  intro v rest hescape
  cases h with
  | simple e hu he =>
    unfold lowEscape? at hescape
    split at hescape
    · rename_i heq
      cases heq
      exact absurd rfl hu
    · cases hescape
  | plain c hp hquote hslash hcontrol =>
    unfold lowEscape? at hescape
    split at hescape
    · rename_i heq
      cases heq
      exact absurd rfl hslash
    · cases hescape
  | unicode hshort =>
    obtain ⟨a, b, c, d, hchars, hvalue⟩ := exists_unicodeEscape_eq hshort
    obtain ⟨q, more, rfl⟩ := List.exists_cons_of_ne_nil ht
    rw [hchars] at hescape
    cases hescape
    exact ⟨_, hvalue, hlow⟩
  | pair hlong =>
    have hhigh := isHigh_iff.1 (isHigh_highHalf p)
    obtain ⟨a, b, c, d, hchars, hvalue⟩ :=
      exists_unicodeEscape_eq (Nat.lt_of_le_of_lt hhigh.2 (by decide))
    obtain ⟨a', b', c', d', hchars', -⟩ :=
      exists_unicodeEscape_eq (Nat.lt_of_le_of_lt (isLow_iff.1 (isLow_lowHalf p)).2 (by decide))
    rw [hchars, hchars'] at hescape
    cases hescape
    refine ⟨_, hvalue, ?_⟩
    rw [← Bool.not_eq_true, isLow_iff]
    omega

/-- A surrogate is written in one escape of four digits. -/
lemma escapePoint_of_isSurrogate (h : isHigh p.value = true ∨ isLow p.value = true) :
    p.value < 0x10000 ∧ escapePoint p = unicodeEscape p.value := by
  rw [isHigh_iff, isLow_iff] at h
  refine ⟨by omega, ?_⟩
  unfold escapePoint
  dsimp only
  rw [if_neg (by omega), if_neg (by omega), if_neg (by omega), if_neg (by omega), if_neg (by omega),
    if_neg (by omega), if_neg (by omega), if_neg (by omega), if_pos (by omega)]

/-- A high and a low surrogate read as the character that they spell. -/
lemma readString_surrogates {q : CodePoint} (hhigh : isHigh p.value = true)
    (hlow : isLow q.value = true) (ht : t ≠ []) :
    readString start done position
        (Text.ofChars (escapePoint p) ++ (Text.ofChars (escapePoint q) ++ t)) =
      readString start (joinSurrogates p.value q.value :: done)
        (position + (escapePoint p).length + (escapePoint q).length) t := by
  obtain ⟨hp, hescape⟩ := escapePoint_of_isSurrogate (.inl hhigh)
  obtain ⟨hq, hescape'⟩ := escapePoint_of_isSurrogate (.inr hlow)
  obtain ⟨a, b, c, d, hchars, hvalue⟩ := exists_unicodeEscape_eq hp
  obtain ⟨a', b', c', d', hchars', hvalue'⟩ := exists_unicodeEscape_eq hq
  have hread := readUnicodeEscape_pair position hvalue hvalue' hhigh hlow ht
  rw [hescape, hescape', hchars, hchars']
  exact readString_unicode hread

/-- What is escaped and put between quotes reads as the text with its surrogate pairs put
together. -/
lemma readString_flatMap_escapePoint (start position : Nat) (done t rest : Text) :
    readString start done position
        (Text.ofChars (t.flatMap escapePoint) ++ .scalar '"' :: rest) =
      .ok (done.reverse ++ t.rejoined,
        ⟨position + (t.flatMap escapePoint).length + 1, rest⟩) := by
  have hquote : ∀ t' : Text, t' ++ .scalar '"' :: rest ≠ [] := fun t' =>
    List.append_ne_nil_of_right_ne_nil _ (List.cons_ne_nil _ _)
  fun_induction Text.rejoined t generalizing done position with
  | case1 p q t h ih =>
    obtain ⟨hhigh, hlow⟩ := Bool.and_eq_true_iff.1 h
    simp only [List.flatMap_cons, Text.ofChars_append, List.append_assoc]
    rw [readString_surrogates hhigh hlow (hquote _), ih]
    simp [Nat.add_assoc]
  | case2 p q t h ih =>
    have hlow : isHigh p.value = true →
        NoLowEscape (Text.ofChars ((q :: t).flatMap escapePoint) ++ .scalar '"' :: rest) := by
      intro hhigh
      rw [List.flatMap_cons, Text.ofChars_append, List.append_assoc]
      apply (escaped_escapePoint q).noLowEscape (hquote _)
      simpa [hhigh] using h
    rw [List.flatMap_cons, Text.ofChars_append, List.append_assoc,
      (escaped_escapePoint p).readString_eq (hquote _) hlow, ih]
    simp [Nat.add_assoc]
  | case3 t h =>
    cases t with
    | nil => simpa using readString_quote
    | cons p t =>
      cases t with
      | cons q t => exact absurd rfl (h p q t)
      | nil =>
        rw [List.flatMap_singleton,
          (escaped_escapePoint p).readString_eq (List.cons_ne_nil _ _) fun _ => noLowEscape_quote,
          readString_quote]
        simp

/-- A written string is a quote and what is read as the string after it. -/
lemma exists_writeString_append (position : Nat) (t rest : Text) :
    ∃ s, Text.ofChars (writeString t) ++ rest = .scalar '"' :: s ∧
      readString position [] (position + 1) s =
        .ok (t.rejoined, ⟨position + (Text.ofChars (writeString t)).length, rest⟩) := by
  refine ⟨Text.ofChars (t.flatMap escapePoint) ++ .scalar '"' :: rest, ?_, ?_⟩
  · simp [writeString]
  · rw [readString_flatMap_escapePoint, List.reverse_nil, List.nil_append, Text.length_ofChars,
      writeString, List.length_append, List.length_cons, List.length_singleton]
    congr 3
    omega

end Json

/-! ## Texts that come back as they were -/

namespace Text

/-- Characters are never halves of a pair. -/
lemma rejoined_ofString (s : String) : (ofString s).rejoined = ofString s := by
  have hscalar : ∀ c : Char, isHigh (CodePoint.scalar c).value = false := by
    intro c
    have hvalid : c.toNat.isValidChar := c.valid
    unfold Nat.isValidChar at hvalid
    rw [← Bool.not_eq_true, Json.isHigh_iff, CodePoint.value]
    omega
  unfold ofString
  induction s.toList with
  | nil => rfl
  | cons c cs ih =>
    cases cs with
    | nil => rfl
    | cons d cs =>
      rw [List.map_cons, List.map_cons, rejoined, hscalar, Bool.false_and,
        if_neg Bool.false_ne_true, ← List.map_cons, ih]

/-- Joined surrogates give a character beyond four digits. -/
lemma value_joinSurrogates {m n : Nat} (hhigh : isHigh m = true) (hlow : isLow n = true) :
    0x10000 ≤ (joinSurrogates m n).value := by
  rw [Json.isHigh_iff] at hhigh
  rw [Json.isLow_iff] at hlow
  have hvalid : (0x10000 + (m - 0xD800) * 0x400 + (n - 0xDC00)).isValidChar := by
    unfold Nat.isValidChar
    omega
  rw [joinSurrogates, CodePoint.ofNatD, CodePoint.ofNat?, dif_pos hvalid]
  show _ ≤ 0x10000 + (m - 0xD800) * 0x400 + (n - 0xDC00)
  omega

/-- Only a text itself turns into one without long numbers. -/
lemma eq_of_rejoined_eq {t s : Text} (hs : ∀ p ∈ s, p.value < 0x10000) (h : t.rejoined = s) :
    t = s := by
  fun_induction rejoined t generalizing s with
  | case1 p q t hpair ih =>
    obtain ⟨hhigh, hlow⟩ := Bool.and_eq_true_iff.1 hpair
    have hshort := hs (joinSurrogates p.value q.value) (h ▸ List.mem_cons_self)
    have hlong := value_joinSurrogates hhigh hlow
    omega
  | case2 p q t hpair ih =>
    subst h
    rw [← ih (fun r hr => hs r (List.mem_cons_of_mem _ hr)) rfl]
  | case3 t hother => exact h

end Text

end ContractAudit
