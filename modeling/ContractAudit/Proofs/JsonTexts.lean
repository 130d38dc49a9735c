import ContractAudit.Proofs.JsonNumbers

/-!
# Texts of JSON values

`Lays v t` says that `t` is a text of the value `v`: strings and numbers stand as the writer spells
them, and there may be blanks wherever tokens meet. The text on one line is one of them
(`lays_write`). The reader takes every such text within its limits (`Lays.readFrom_eq`,
`Lays.read_eq`) and gives the value back up to what a text cannot show (`reread`).
-/

namespace ContractAudit

namespace Json

/-! ## Values without parts -/

/-- A value word is found whatever follows it. -/
lemma literal?_word {row : String × Json} (hrow : row ∈ literals) (rest : Text) :
    literal? (Text.ofString row.1 ++ rest) = some (row.2, (Text.ofString row.1).length) := by
  simp only [literals, List.mem_cons, List.not_mem_nil, or_false] at hrow
  rcases hrow with rfl | rfl | rfl | rfl | rfl | rfl <;> rfl

/-- No value word is empty or begins with a quote. -/
lemma exists_cons_of_mem_literals : ∀ row ∈ literals,
    ∃ p t, Text.ofString row.1 = p :: t ∧ p.isChar '"' = false := by
  intro row hrow
  simp only [literals, List.mem_cons, List.not_mem_nil, or_false] at hrow
  rcases hrow with rfl | rfl | rfl | rfl | rfl | rfl <;> exact ⟨_, _, rfl, rfl⟩

/-- A value word is read as its value. -/
lemma readsAs_literal {row : String × Json} (hrow : row ∈ literals) :
    ReadsAs (Text.ofString row.1) row.2 := by
  intro position rest _
  have hliteral := literal?_word hrow rest
  obtain ⟨p, t, hcons, hp⟩ := exists_cons_of_mem_literals row hrow
  rw [hcons, List.cons_append] at hliteral ⊢
  rw [readScalar, hp, if_neg Bool.false_ne_true]
  simp only [hliteral]
  rw [← List.cons_append, List.drop_left]

/-- A string is read as it was, with its surrogates joined. -/
lemma readsAs_writeString (t : Text) :
    ReadsAs (Text.ofChars (writeString t)) (.str t.rejoined) := by
  intro position rest _
  obtain ⟨s, hs, hread⟩ := exists_writeString_append position t rest
  rw [hs, readScalar, if_pos (by rfl), hread]

/-- Blanks and brackets begin no value without parts. -/
lemma ReadsAs.isChar_eq_false {p : CodePoint} {t : Text} {v : Json} {c : Char}
    (h : ReadsAs (p :: t) v) (hc : c ∈ [' ', '\t', '\n', '\r', '[', ']', '\x7b', '\x7d']) :
    p.isChar c = false := by
  rw [CodePoint.isChar, beq_eq_false_iff_ne]
  rintro rfl
  have hread := h 0 [] fun p hp => absurd hp (Option.not_mem_none p)
  have herror : readScalar 0 (.scalar c :: t ++ []) = .error (.malformed .expectingValue 0) := by
    simp only [List.mem_cons, List.not_mem_nil, or_false] at hc
    rcases hc with rfl | rfl | rfl | rfl | rfl | rfl | rfl | rfl <;> rfl
  rw [herror] at hread
  cases hread

/-- Whether a value has no parts. -/
def isScalar : Json → Bool
  | .array _ => false
  | .object _ => false
  | _ => true

/-! ## Limits -/

mutual

/-- Whether a value is within the limits of the reader: containers are nested at most `depth` deep,
and whole numbers have at most `digitLimit` digits. -/
def fits (depth : Nat) : Json → Bool
  | .int n => (Nat.toDigits 10 n.natAbs).length ≤ digitLimit
  | .array items => 0 < depth && fitsItems (depth - 1) items
  | .object members => 0 < depth && fitsMembers (depth - 1) members
  | _ => true

/-- Whether items are within the limits. -/
def fitsItems (depth : Nat) : List Json → Bool
  | [] => true
  | v :: rest => fits depth v && fitsItems depth rest

/-- Whether the values of members are within the limits. -/
def fitsMembers (depth : Nat) : List (Text × Json) → Bool
  | [] => true
  | (_, v) :: rest => fits depth v && fitsMembers depth rest

end

/-! ## What comes back -/

/-- The members of an object whose text has these members: a name that comes again replaces the
value and keeps the place. -/
def settle (members : List (Text × Json)) : List (Text × Json) :=
  members.foldl (fun done m => upsert m.1 m.2 done) []

mutual

/-- The value that is read from a text of a value. -/
def reread : Json → Json
  | .str t => .str t.rejoined
  | .array items => .array (rereadItems items)
  | .object members => .object (settle (rereadMembers members))
  | v =>
    match readScalar 0 (Text.ofChars (writeChars v)) with
    | .ok (w, _) => w
    | .error _ => v

/-- The items that are read from their texts. -/
def rereadItems : List Json → List Json
  | [] => []
  | v :: rest => reread v :: rereadItems rest

/-- The members that are read from their texts, with every repetition. -/
def rereadMembers : List (Text × Json) → List (Text × Json)
  | [] => []
  | (k, v) :: rest => (k.rejoined, reread v) :: rereadMembers rest

end

/-- A value without parts that fits is read as some value. -/
lemma exists_readsAs {v : Json} {depth : Nat} (hv : v.isScalar = true)
    (hfits : v.fits depth = true) : ∃ w, ReadsAs (Text.ofChars (writeChars v)) w := by
  cases v with
  | null =>
    have hrow : ("null", Json.null) ∈ literals := List.mem_cons_self
    exact ⟨.null, readsAs_literal hrow⟩
  | bool b =>
    cases b with
    | true =>
      have hrow : ("true", Json.bool true) ∈ literals := List.mem_cons_of_mem _ List.mem_cons_self
      exact ⟨.bool true, readsAs_literal hrow⟩
    | false =>
      have hrow : ("false", Json.bool false) ∈ literals :=
        List.mem_cons_of_mem _ (List.mem_cons_of_mem _ List.mem_cons_self)
      exact ⟨.bool false, readsAs_literal hrow⟩
  | int n =>
    rw [fits, decide_eq_true_eq] at hfits
    exact (isNumeral_int hfits).exists_readsAs
  | float x =>
    rcases isNumeral_or_literal x with hnumeral | ⟨row, hrow, htext⟩
    · exact hnumeral.exists_readsAs
    · rw [htext]
      exact ⟨row.2, readsAs_literal hrow⟩
  | str t => exact ⟨.str t.rejoined, readsAs_writeString t⟩
  | array items => cases hv
  | object members => cases hv

/-- A value without parts, within the limits, is read from its text. -/
lemma readsAs_reread {v : Json} {depth : Nat} (hv : v.isScalar = true)
    (hfits : v.fits depth = true) : ReadsAs (Text.ofChars (writeChars v)) v.reread := by
  by_cases hstr : ∃ t, v = .str t
  · obtain ⟨t, rfl⟩ := hstr
    rw [reread]
    exact readsAs_writeString t
  · obtain ⟨w, hw⟩ := exists_readsAs hv hfits
    have hread := hw 0 [] fun p hp => absurd hp (Option.not_mem_none p)
    rw [List.append_nil] at hread
    have hreread : v.reread = w := by
      rw [reread, hread]
      · exact fun t ht => hstr ⟨t, ht⟩
      · rintro items rfl
        cases hv
      · rintro members rfl
        cases hv
    rw [hreread]
    exact hw

/-! ## Layouts -/

/-- Blanks between tokens. -/
def Spaces (b : Text) : Prop :=
  ∀ p ∈ b, isSpace p = true

mutual

/-- The text is one of the value: without parts as it is written, a container in its brackets. -/
inductive Lays : Json → Text → Prop where
  | scalar {v : Json} (hv : v.isScalar = true) : Lays v (Text.ofChars (writeChars v))
  | array {items : List Json} {s : Text} (h : LaysItems items s) :
      Lays (.array items) (.scalar '[' :: (s ++ [.scalar ']']))
  | object {members : List (Text × Json)} {s : Text} (h : LaysMembers members s) :
      Lays (.object members) (.scalar '\x7b' :: (s ++ [.scalar '\x7d']))

/-- The text is one of the items, with commas between them and blanks about them. -/
inductive LaysItems : List Json → Text → Prop where
  | nil {b : Text} (hb : Spaces b) : LaysItems [] b
  | last {v : Json} {b t a : Text} (hb : Spaces b) (ht : Lays v t) (ha : Spaces a) :
      LaysItems [v] (b ++ (t ++ a))
  | cons {v w : Json} {rest : List Json} {b t a s : Text} (hb : Spaces b) (ht : Lays v t)
      (ha : Spaces a) (hs : LaysItems (w :: rest) s) :
      LaysItems (v :: w :: rest) (b ++ (t ++ (a ++ .scalar ',' :: s)))

/-- The text is one of the members, with commas between them and blanks about names and values. -/
inductive LaysMembers : List (Text × Json) → Text → Prop where
  | nil {b : Text} (hb : Spaces b) : LaysMembers [] b
  | last {k : Text} {v : Json} {b c d t a : Text} (hb : Spaces b) (hc : Spaces c) (hd : Spaces d)
      (ht : Lays v t) (ha : Spaces a) :
      LaysMembers [(k, v)]
        (b ++ (Text.ofChars (writeString k) ++ (c ++ .scalar ':' :: (d ++ (t ++ a)))))
  | cons {k : Text} {v : Json} {m : Text × Json} {rest : List (Text × Json)} {b c d t a s : Text}
      (hb : Spaces b) (hc : Spaces c) (hd : Spaces d) (ht : Lays v t) (ha : Spaces a)
      (hs : LaysMembers (m :: rest) s) :
      LaysMembers ((k, v) :: m :: rest)
        (b ++ (Text.ofChars (writeString k) ++
          (c ++ .scalar ':' :: (d ++ (t ++ (a ++ .scalar ',' :: s))))))

end

/-! ## Steps of the reader -/

variable {a b t rest : Text} {v : Json} {limit : Nat} {stack : List Frame} {position : Nat}

/-- Blanks are skipped. -/
lemma skipSpace_append (hb : Spaces b) (position : Nat) (t : Text) :
    skipSpace position (b ++ t) = skipSpace (position + b.length) t := by
  induction b generalizing position with
  | nil => rfl
  | cons p b ih =>
    have hp := hb p List.mem_cons_self
    rw [List.cons_append, skipSpace, if_pos hp, ih fun q hq => hb q (List.mem_cons_of_mem p hq),
      List.length_cons, Nat.add_right_comm, Nat.add_assoc]

/-- Nothing else is skipped. -/
lemma skipSpace_cons {p : CodePoint} (hp : isSpace p = false) (position : Nat) (t : Text) :
    skipSpace position (p :: t) = ⟨position, p :: t⟩ := by
  rw [skipSpace, hp, if_neg Bool.false_ne_true]

/-- Skipping ends at a token. -/
lemma skipSpace_token {p : CodePoint} (hb : Spaces b) (hp : isSpace p = false) (position : Nat)
    (t : Text) : skipSpace position (b ++ p :: t) = ⟨position + b.length, p :: t⟩ := by
  rw [skipSpace_append hb, skipSpace_cons hp]

/-- Reads on after blanks. -/
def readPast (limit : Nat) (stack : List Frame) (expect : Expect) (position : Nat) (t : Text) :
    Except ReadError (Json × Cursor) :=
  readFrom limit stack expect (skipSpace position t).position (skipSpace position t).rest

/-- Reading goes on at a token. -/
lemma readPast_token {p : CodePoint} (hb : Spaces b) (hp : isSpace p = false) (expect : Expect) :
    readPast limit stack expect position (b ++ p :: t) =
      readFrom limit stack expect (position + b.length) (p :: t) := by
  rw [readPast, skipSpace_token hb hp]

/-- What is read as a value is not empty. -/
lemma ReadsAs.exists_cons (h : ReadsAs t v) : ∃ p s, t = p :: s := by
  cases t with
  | nil =>
    have hread := h 0 [] fun p hp => absurd hp (Option.not_mem_none p)
    cases hread
  | cons p s => exact ⟨p, s, rfl⟩

/-- Reading goes on after a value without parts. -/
lemma readFrom_scalar (h : ReadsAs t v) (hrest : Stops rest) :
    readFrom limit stack .value position (t ++ rest) =
      readFrom limit stack (.after v) (position + t.length) rest := by
  have hread := h position rest hrest
  obtain ⟨p, t, rfl⟩ := h.exists_cons
  rw [List.cons_append] at hread ⊢
  rw [readFrom.eq_def]
  simp only [h.isChar_eq_false (c := '\x7b') (by decide), h.isChar_eq_false (c := '[') (by decide),
    Bool.false_eq_true, if_false]
  split
  · rename_i heq
    rw [hread] at heq
    cases heq
  · rename_i heq
    rw [hread] at heq
    cases heq
    rfl

/-- An array is empty, or its first item follows. -/
lemma readFrom_array {p : CodePoint} (hstack : stack.length < limit) (hb : Spaces b)
    (hp : isSpace p = false) :
    readFrom limit stack .value position (.scalar '[' :: (b ++ p :: rest)) =
      if p.isChar ']' then
        readFrom limit stack (.after (.array [])) (position + 1 + b.length + 1) rest
      else readFrom limit (.array [] :: stack) .value (position + 1 + b.length) (p :: rest) := by
  have hskip := skipSpace_token hb hp (position + 1) rest
  rw [readFrom.eq_def]
  simp only
  rw [if_neg (by decide), if_pos (by decide), if_neg (Nat.not_le_of_lt hstack)]
  split
  · rename_i heq
    rw [hskip] at heq
    cases heq
  · rename_i heq
    rw [hskip] at heq ⊢
    cases heq
    rfl

/-- An object is empty, or the name of its first member follows. -/
lemma readFrom_object {p : CodePoint} (hstack : stack.length < limit) (hb : Spaces b)
    (hp : isSpace p = false) :
    readFrom limit stack .value position (.scalar '\x7b' :: (b ++ p :: rest)) =
      if p.isChar '\x7d' then
        readFrom limit stack (.after (.object [])) (position + 1 + b.length + 1) rest
      else readFrom limit stack (.name []) (position + 1 + b.length) (p :: rest) := by
  have hskip := skipSpace_token hb hp (position + 1) rest
  rw [readFrom.eq_def]
  simp only
  rw [if_pos (by decide), if_neg (Nat.not_le_of_lt hstack)]
  split
  · rename_i heq
    rw [hskip] at heq
    cases heq
  · rename_i heq
    rw [hskip] at heq ⊢
    cases heq
    rfl

/-- A name, the colon after it, and the value. -/
lemma readFrom_name {done : List (Text × Json)} {c : Text} (k : Text) (hc : Spaces c) :
    readFrom limit stack (.name done) position
        (Text.ofChars (writeString k) ++ (c ++ .scalar ':' :: rest)) =
      readPast limit (.object done k.rejoined :: stack) .value
        (position + (Text.ofChars (writeString k)).length + c.length + 1) rest := by
  obtain ⟨s, hs, hread⟩ := exists_writeString_append position k (c ++ .scalar ':' :: rest)
  have hskip := skipSpace_token (p := .scalar ':') hc rfl
    (position + (Text.ofChars (writeString k)).length) rest
  rw [hs, readFrom.eq_def]
  simp only
  rw [if_pos (by decide)]
  split
  · rename_i heq
    rw [hread] at heq
    cases heq
  · rename_i heq
    rw [hread] at heq
    cases heq
    split
    · rename_i heq
      rw [hskip] at heq
      cases heq
    · rename_i heq
      rw [hskip] at heq ⊢
      cases heq
      rfl

/-- After a value, its container goes on or ends. -/
lemma readFrom_after {frame : Frame} {p : CodePoint} (ha : Spaces a) (hp : isSpace p = false) :
    readFrom limit (frame :: stack) (.after v) position (a ++ p :: rest) =
      match frame with
      | .array done =>
        if p.isChar ']' then
          readFrom limit stack (.after (.array (v :: done).reverse)) (position + a.length + 1) rest
        else if p.isChar ',' then
          readPast limit (.array (v :: done) :: stack) .value (position + a.length + 1) rest
        else .error (.malformed .expectingComma (position + a.length))
      | .object done name =>
        if p.isChar '\x7d' then
          readFrom limit stack (.after (.object (upsert name v done))) (position + a.length + 1)
            rest
        else if p.isChar ',' then
          readPast limit stack (.name (upsert name v done)) (position + a.length + 1) rest
        else .error (.malformed .expectingComma (position + a.length)) := by
  have hskip := skipSpace_token ha hp position rest
  rw [readFrom.eq_def]
  simp only
  split
  · rename_i heq
    rw [hskip] at heq
    cases heq
  · rename_i heq
    rw [hskip] at heq ⊢
    cases heq
    rfl

/-! ## Reading a text of a value -/

/-- The four blanks. -/
lemma isSpace_cases {p : CodePoint} (h : isSpace p = true) :
    p = .scalar ' ' ∨ p = .scalar '\t' ∨ p = .scalar '\n' ∨ p = .scalar '\r' := by
  simpa only [isSpace, CodePoint.isChar, Bool.or_eq_true, beq_iff_eq, or_assoc] using h

/-- No number goes on after blanks. -/
lemma Stops.append (ha : Spaces a) (h : Stops rest) : Stops (a ++ rest) := by
  cases a with
  | nil => exact h
  | cons p a =>
    rintro q ⟨⟩
    rcases isSpace_cases (ha p List.mem_cons_self) with rfl | rfl | rfl | rfl <;> decide

/-- No number goes on after a comma or a closing bracket. -/
lemma stops_mark {c : Char} (hc : c ∈ [',', ']', '\x7d']) : Stops (.scalar c :: rest) := by
  rintro q ⟨⟩
  simp only [List.mem_cons, List.not_mem_nil, or_false] at hc
  rcases hc with rfl | rfl | rfl <;> decide

/-- No text of a value begins with a blank or looks like the end of an array. -/
lemma Lays.exists_cons {depth : Nat} (h : Lays v t) (hfits : v.fits depth = true) :
    ∃ p s, t = p :: s ∧ isSpace p = false ∧ p.isChar ']' = false := by
  cases h with
  | scalar hv =>
    have hreads := readsAs_reread hv hfits
    obtain ⟨p, s, hcons⟩ := hreads.exists_cons
    rw [hcons] at hreads
    refine ⟨p, s, hcons, ?_, hreads.isChar_eq_false (by decide)⟩
    rw [isSpace, hreads.isChar_eq_false (by decide), hreads.isChar_eq_false (by decide),
      hreads.isChar_eq_false (by decide), hreads.isChar_eq_false (by decide)]
    rfl
  | array h => exact ⟨_, _, rfl, rfl, rfl⟩
  | object h => exact ⟨_, _, rfl, rfl, rfl⟩

/-- A value after blanks. -/
lemma Lays.readPast_eq {depth : Nat} (h : Lays v t) (hfits : v.fits depth = true) (hb : Spaces b) :
    readPast limit stack .value position (b ++ (t ++ rest)) =
      readFrom limit stack .value (position + b.length) (t ++ rest) := by
  obtain ⟨p, s, rfl, hp, -⟩ := h.exists_cons hfits
  rw [List.cons_append, readPast_token hb hp]

/-- The first item of an array comes after the bracket. -/
lemma LaysItems.exists_token {depth : Nat} {items : List Json} {s : Text} (h : LaysItems items s)
    (hne : items ≠ []) (hfits : fitsItems depth items = true) :
    ∃ b p u, s = b ++ p :: u ∧ Spaces b ∧ isSpace p = false ∧ p.isChar ']' = false := by
  cases h with
  | nil hb => exact absurd rfl hne
  | @last v b t a hb ht ha =>
    rw [fitsItems, Bool.and_eq_true] at hfits
    obtain ⟨p, u, rfl, hp, hclose⟩ := ht.exists_cons hfits.1
    exact ⟨b, p, u ++ a, rfl, hb, hp, hclose⟩
  | @cons v w vs b t a s hb ht ha hs =>
    rw [fitsItems, Bool.and_eq_true] at hfits
    obtain ⟨p, u, rfl, hp, hclose⟩ := ht.exists_cons hfits.1
    exact ⟨b, p, u ++ (a ++ .scalar ',' :: s), rfl, hb, hp, hclose⟩

/-- The quote of the first name comes after the brace. -/
lemma LaysMembers.exists_token {members : List (Text × Json)} {s : Text}
    (h : LaysMembers members s) (hne : members ≠ []) :
    ∃ b u, s = b ++ .scalar '"' :: u ∧ Spaces b := by
  cases h with
  | nil hb => exact absurd rfl hne
  | last hb hc hd ht ha => exact ⟨_, _, rfl, hb⟩
  | cons hb hc hd ht ha hs => exact ⟨_, _, rfl, hb⟩

/-- A member, once it is known how its value is read. -/
lemma readPast_member {depth : Nat} {done : List (Text × Json)} {k c d : Text} (hb : Spaces b)
    (hc : Spaces c) (hd : Spaces d) (ht : Lays v t) (hfits : v.fits depth = true)
    (hvalue : ∀ n, readFrom limit (.object done k.rejoined :: stack) .value n (t ++ rest) =
      readFrom limit (.object done k.rejoined :: stack) (.after v.reread) (n + t.length) rest) :
    readPast limit stack (.name done) position
        (b ++ (Text.ofChars (writeString k) ++ (c ++ .scalar ':' :: (d ++ (t ++ rest))))) =
      readFrom limit (.object done k.rejoined :: stack) (.after v.reread)
        (position + (b.length + ((writeString k).length + (c.length + (d.length + t.length + 1)))))
        rest := by
  have hname : readPast limit stack (.name done) position
      (b ++ (Text.ofChars (writeString k) ++ (c ++ .scalar ':' :: (d ++ (t ++ rest))))) =
      readFrom limit stack (.name done) (position + b.length)
        (Text.ofChars (writeString k) ++ (c ++ .scalar ':' :: (d ++ (t ++ rest)))) :=
    readPast_token hb rfl _
  rw [hname, readFrom_name k hc, ht.readPast_eq hfits hd, hvalue, Text.length_ofChars]
  congr 1
  omega

mutual

/-- A text of a value within the limits is read as the value. -/
theorem Lays.readFrom_eq {v : Json} {t : Text} (h : Lays v t) {limit depth : Nat}
    {stack : List Frame} {position : Nat} {rest : Text} (hfits : v.fits depth = true)
    (hstack : stack.length + depth ≤ limit) (hrest : Stops rest) :
    readFrom limit stack .value position (t ++ rest) =
      readFrom limit stack (.after v.reread) (position + t.length) rest := by
  cases h with
  | scalar hv => exact readFrom_scalar (readsAs_reread hv hfits) hrest
  | @array items s h =>
    rw [fits, Bool.and_eq_true, decide_eq_true_eq] at hfits
    have hroom : stack.length < limit := by omega
    rw [List.cons_append, List.append_assoc, List.singleton_append, reread, List.length_cons,
      List.length_append, List.length_singleton]
    by_cases hne : items = []
    · subst hne
      cases h with
      | nil hb =>
        rw [readFrom_array hroom hb rfl, if_pos (by decide), rereadItems]
        congr 1
        omega
    · obtain ⟨b, p, u, rfl, hb, hp, hclose⟩ := h.exists_token hne hfits.2
      rw [List.append_assoc, List.cons_append, readFrom_array hroom hb hp,
        if_neg (Bool.eq_false_iff.1 hclose), ← readPast_token hb hp,
        ← List.cons_append, ← List.append_assoc, LaysItems.readPast_eq h hne hfits.2 (by omega)]
      rw [List.reverse_nil, List.nil_append]
      congr 1
      omega
  | @object members s h =>
    rw [fits, Bool.and_eq_true, decide_eq_true_eq] at hfits
    have hroom : stack.length < limit := by omega
    rw [List.cons_append, List.append_assoc, List.singleton_append, reread, List.length_cons,
      List.length_append, List.length_singleton]
    by_cases hne : members = []
    · subst hne
      cases h with
      | nil hb =>
        rw [readFrom_object hroom hb rfl, if_pos (by decide), rereadMembers]
        congr 1
        omega
    · obtain ⟨b, u, rfl, hb⟩ := h.exists_token hne
      rw [List.append_assoc, List.cons_append, readFrom_object hroom hb rfl, if_neg (by decide),
        ← readPast_token hb rfl, ← List.cons_append, ← List.append_assoc,
        LaysMembers.readPast_eq h hne hfits.2 (by omega)]
      congr 1
      omega

/-- The items of an array are read one after the other. -/
theorem LaysItems.readPast_eq {items : List Json} {s : Text} (h : LaysItems items s)
    {limit depth : Nat} {stack : List Frame} {done : List Json} {position : Nat} {rest : Text}
    (hne : items ≠ []) (hfits : fitsItems depth items = true)
    (hstack : stack.length + 1 + depth ≤ limit) :
    readPast limit (.array done :: stack) .value position (s ++ .scalar ']' :: rest) =
      readFrom limit stack (.after (.array (done.reverse ++ rereadItems items)))
        (position + s.length + 1) rest := by
  have hframe : (Frame.array done :: stack).length + depth ≤ limit := hstack
  cases h with
  | nil hb => exact absurd rfl hne
  | @last v b t a hb ht ha =>
    rw [fitsItems, Bool.and_eq_true] at hfits
    have hstops : Stops (a ++ .scalar ']' :: rest) := (stops_mark (by decide)).append ha
    rw [List.append_assoc, List.append_assoc, ht.readPast_eq hfits.1 hb,
      Lays.readFrom_eq ht hfits.1 hframe hstops, readFrom_after ha rfl]
    simp only
    rw [if_pos (by decide), List.reverse_cons, rereadItems, rereadItems, List.length_append,
      List.length_append]
    congr 1
    omega
  | @cons v w vs b t a s hb ht ha hs =>
    rw [fitsItems, Bool.and_eq_true] at hfits
    have hstops : Stops (a ++ .scalar ',' :: (s ++ .scalar ']' :: rest)) :=
      (stops_mark (by decide)).append ha
    rw [List.append_assoc, List.append_assoc, List.append_assoc, List.cons_append,
      ht.readPast_eq hfits.1 hb, Lays.readFrom_eq ht hfits.1 hframe hstops, readFrom_after ha rfl]
    simp only
    rw [if_neg (by decide), if_pos (by decide),
      LaysItems.readPast_eq hs (List.cons_ne_nil w vs) hfits.2 hstack, List.reverse_cons,
      List.append_assoc, List.singleton_append, ← rereadItems]
    simp only [List.length_append, List.length_cons]
    congr 1
    omega

/-- The members of an object are read one after the other. -/
theorem LaysMembers.readPast_eq {members : List (Text × Json)} {s : Text}
    (h : LaysMembers members s) {limit depth : Nat} {stack : List Frame}
    {done : List (Text × Json)} {position : Nat} {rest : Text}
    (hne : members ≠ []) (hfits : fitsMembers depth members = true)
    (hstack : stack.length + 1 + depth ≤ limit) :
    readPast limit stack (.name done) position (s ++ .scalar '\x7d' :: rest) =
      readFrom limit stack
        (.after (.object ((rereadMembers members).foldl (fun done m => upsert m.1 m.2 done) done)))
        (position + s.length + 1) rest := by
  cases h with
  | nil hb => exact absurd rfl hne
  | @last k v b c d t a hb hc hd ht ha =>
    have hframe : (Frame.object done k.rejoined :: stack).length + depth ≤ limit := hstack
    rw [fitsMembers, Bool.and_eq_true] at hfits
    have hstops : Stops (a ++ .scalar '\x7d' :: rest) := (stops_mark (by decide)).append ha
    simp only [List.append_assoc, List.cons_append]
    rw [readPast_member hb hc hd ht hfits.1 fun n => Lays.readFrom_eq ht hfits.1 hframe hstops,
      readFrom_after ha rfl]
    simp only
    rw [if_pos (by decide), rereadMembers, rereadMembers, List.foldl_cons, List.foldl_nil]
    simp only [List.length_append, List.length_cons, Text.length_ofChars]
    congr 1
    omega
  | @cons k v m ms b c d t a s hb hc hd ht ha hs =>
    have hframe : (Frame.object done k.rejoined :: stack).length + depth ≤ limit := hstack
    rw [fitsMembers, Bool.and_eq_true] at hfits
    have hstops : Stops (a ++ .scalar ',' :: (s ++ .scalar '\x7d' :: rest)) :=
      (stops_mark (by decide)).append ha
    simp only [List.append_assoc, List.cons_append]
    rw [readPast_member hb hc hd ht hfits.1 fun n => Lays.readFrom_eq ht hfits.1 hframe hstops,
      readFrom_after ha rfl]
    simp only
    rw [if_neg (by decide), if_pos (by decide),
      LaysMembers.readPast_eq hs (List.cons_ne_nil m ms) hfits.2 hstack]
    conv => rhs; rw [rereadMembers, List.foldl_cons]
    simp only [List.length_append, List.length_cons, Text.length_ofChars]
    congr 1
    omega

end

/-- Reading ends after the outermost value. -/
lemma readFrom_done (v : Json) (position : Nat) (t : Text) :
    readFrom limit [] (.after v) position t = .ok (v, ⟨position, t⟩) := by
  rw [readFrom.eq_def]

/-- A text of a value is read as the value. -/
lemma Lays.read_eq (h : Lays v t) (hfits : v.fits limit = true) : read limit t = .ok v.reread := by
  have hstops : Stops [] := fun p hp => absurd hp (Option.not_mem_none p)
  have hread : readFrom limit [] .value 0 (t ++ []) = .ok (v.reread, ⟨0 + t.length, []⟩) := by
    rw [h.readFrom_eq hfits (by rw [List.length_nil, Nat.zero_add]) hstops, readFrom_done]
  have hskip : skipSpace 0 t = ⟨0, t⟩ := by
    obtain ⟨p, s, rfl, hp, -⟩ := h.exists_cons hfits
    exact skipSpace_cons hp 0 s
  rw [List.append_nil] at hread
  rw [read, hskip]
  simp only [hread]
  rfl

/-! ## The text on one line -/

/-- No text at all counts as blanks. -/
lemma spaces_nil : Spaces [] :=
  fun _ hp => absurd hp List.not_mem_nil

/-- A single space counts as blanks. -/
lemma spaces_one : Spaces [.scalar ' '] :=
  List.forall_mem_singleton.2 rfl

mutual

/-- The text on one line is one of the value's texts. -/
theorem lays_writeChars : ∀ v : Json, Lays v (Text.ofChars (writeChars v))
  | .null => .scalar rfl
  | .bool _ => .scalar rfl
  | .int _ => .scalar rfl
  | .float _ => .scalar rfl
  | .str _ => .scalar rfl
  | .array items => by
    have hchars : writeChars (.array items) = '[' :: writeItems items ++ [']'] := rfl
    have h := Lays.array (laysItems_writeItems items spaces_nil)
    simpa [hchars] using h
  | .object members => by
    have hchars : writeChars (.object members) = '\x7b' :: writeMembers members ++ ['\x7d'] := rfl
    have h := Lays.object (laysMembers_writeMembers members spaces_nil)
    simpa [hchars] using h

/-- The items are laid out as they are written. -/
theorem laysItems_writeItems : ∀ (items : List Json) {b : Text}, Spaces b →
    LaysItems items (b ++ Text.ofChars (writeItems items))
  | [], b, hb => by
    simpa [writeItems] using LaysItems.nil hb
  | [v], b, hb => by
    simpa [writeItems] using LaysItems.last hb (lays_writeChars v) spaces_nil
  | v :: w :: rest, b, hb => by
    have h := LaysItems.cons hb (lays_writeChars v) spaces_nil
      (laysItems_writeItems (w :: rest) spaces_one)
    simpa [writeItems] using h

/-- The members are laid out as they are written. -/
theorem laysMembers_writeMembers : ∀ (members : List (Text × Json)) {b : Text}, Spaces b →
    LaysMembers members (b ++ Text.ofChars (writeMembers members))
  | [], b, hb => by
    simpa [writeMembers] using LaysMembers.nil hb
  | [(k, v)], b, hb => by
    have h := LaysMembers.last (k := k) hb spaces_nil spaces_one (lays_writeChars v) spaces_nil
    simpa [writeMembers] using h
  | (k, v) :: m :: rest, b, hb => by
    have h := LaysMembers.cons (k := k) hb spaces_nil spaces_one (lays_writeChars v) spaces_nil
      (laysMembers_writeMembers (m :: rest) spaces_one)
    simpa [writeMembers] using h

end

/-- A value is laid out as it is written. -/
lemma lays_write (v : Json) : Lays v (Text.ofString v.write) := by
  have h := lays_writeChars v
  rwa [write, Text.ofString, String.toList_ofList]

end Json

end ContractAudit
