import ContractAudit.Api.Basic
import ContractAudit.Proofs.LowerCase
import Mathlib.Tactic.Lemma

/-!
# Forms of addresses

One pattern describes addresses, and it is read in two ways: the end of the pattern is the end of the
text for the address in a request body, but also the place before a last line feed for the address in
a path. `Pattern.Fits` gives patterns their meaning under either rule. The check of bodies accepts
exactly the addresses, the check of paths also accepts an address with one line feed after it, and
there is no other difference (`address_checks`).
-/

namespace ContractAudit

/-! ## Patterns -/

/-- What a pattern asks for at a place of a text. -/
inductive PatternItem where
  /-- To be at the beginning. -/
  | start
  /-- To be at the end. -/
  | finish
  /-- This character. -/
  | char (c : Char)
  /-- So many characters, each of them from one of the ranges. -/
  | repeated (ranges : List (Char × Char)) (count : Nat)

/-- A pattern is a list of items, to be met one after the other. -/
abbrev Pattern := List PatternItem

/-- How a pattern is written. -/
def PatternItem.written : PatternItem → String
  | .start => "^"
  | .finish => "$"
  | .char c => c.toString
  | .repeated ranges count =>
    "[" ++ String.join (ranges.map fun r => r.1.toString ++ "-" ++ r.2.toString) ++ "]"
      ++ "\x7b" ++ toString count ++ "\x7d"

/-- How a whole pattern is written. -/
def Pattern.written (items : Pattern) : String :=
  String.join (items.map PatternItem.written)

/-- Whether a code point is a character from one of the ranges. -/
def IsIn (ranges : List (Char × Char)) (p : CodePoint) : Prop :=
  ∃ c, p = .scalar c ∧ ∃ r ∈ ranges, r.1 ≤ c ∧ c ≤ r.2

/-- The items of a pattern fit one after the other behind `before`, where `rest` is still to come.
What counts as the end is left open. -/
inductive Pattern.Fits (atEnd : Text → Prop) : Pattern → Text → Text → Prop
  | nil {before rest} : Fits atEnd [] before rest
  | start {items rest} (h : Fits atEnd items [] rest) : Fits atEnd (.start :: items) [] rest
  | finish {items before rest} (hend : atEnd rest) (h : Fits atEnd items before rest) :
      Fits atEnd (.finish :: items) before rest
  | char {items before rest c} (h : Fits atEnd items (before ++ [.scalar c]) rest) :
      Fits atEnd (.char c :: items) before (.scalar c :: rest)
  | repeated {items before stretch rest ranges count} (hlength : stretch.length = count)
      (hin : ∀ p ∈ stretch, IsIn ranges p) (h : Fits atEnd items (before ++ stretch) rest) :
      Fits atEnd (.repeated ranges count :: items) before (stretch ++ rest)

/-- Only the end of the text is the end. -/
def TextEnd (rest : Text) : Prop :=
  rest = []

/-- The end of the text is the end, and so is the place before a last line feed. -/
def LineEnd (rest : Text) : Prop :=
  rest = [] ∨ rest = Text.ofString "\n"

/-- A pattern fits somewhere in a text. -/
def Pattern.FitsWithin (atEnd : Text → Prop) (items : Pattern) (t : Text) : Prop :=
  ∃ before rest, t = before ++ rest ∧ items.Fits atEnd before rest

/-- Hexadecimal digits, in the order in which the pattern lists them. -/
def hexRanges : List (Char × Char) :=
  [('a', 'f'), ('A', 'F'), ('0', '9')]

/-- The pattern of addresses. -/
def addressItems : Pattern :=
  [.start, .char '0', .char 'x', .repeated hexRanges 40, .finish]

/-- The pattern is the one that is named in messages. -/
lemma written_addressItems : addressItems.written = addressPattern := by
  decide

/-! ## Addresses -/

/-- A text is `0x` with forty hexadecimal digits and nothing else. -/
def IsAddress (t : Text) : Prop :=
  ∃ digits : Text, t = Text.ofString "0x" ++ digits ∧ digits.length = 40 ∧
    ∀ p ∈ digits, IsIn hexRanges p

/-- The check of digits is the one that the ranges describe. -/
lemma isAddressDigit_iff (p : CodePoint) : isAddressDigit p = true ↔ IsIn hexRanges p := by
  simp only [isAddressDigit, Bool.or_eq_true, Bool.and_eq_true, decide_eq_true_eq]
  cases p with
  | scalar c =>
    have ha : ('a' : Char).val.toNat = 97 := rfl
    have hf : ('f' : Char).val.toNat = 102 := rfl
    have hA : ('A' : Char).val.toNat = 65 := rfl
    have hF : ('F' : Char).val.toNat = 70 := rfl
    have h0 : ('0' : Char).val.toNat = 48 := rfl
    have h9 : ('9' : Char).val.toNat = 57 := rfl
    simp only [CodePoint.value, Char.toNat, IsIn, hexRanges, CodePoint.scalar.injEq,
      exists_eq_left', List.mem_cons, List.not_mem_nil, or_false, exists_eq_or_imp, exists_eq_left,
      Char.le_def, UInt32.le_iff_toNat_le]
    omega
  | surrogate i =>
    -- surrogates are numbered far above the digits
    constructor
    · intro h
      simp only [CodePoint.value] at h
      omega
    · rintro ⟨c, hc, -⟩
      cases hc

/-- The check of addresses accepts addresses and nothing else. -/
lemma isAddress_iff (t : Text) : isAddress t = true ↔ IsAddress t := by
  simp only [isAddress, Text.startsWith, Bool.and_eq_true, List.isPrefixOf_iff_prefix, beq_iff_eq,
    List.all_eq_true, isAddressDigit_iff]
  constructor
  · rintro ⟨⟨⟨digits, rfl⟩, hlength⟩, hdigits⟩
    have hzerox : (Text.ofString "0x").length = 2 := rfl
    refine ⟨digits, rfl, ?_, hdigits⟩
    rw [List.length_append, hzerox] at hlength
    omega
  · rintro ⟨digits, rfl, hlength, hdigits⟩
    exact ⟨⟨List.prefix_append _ _, by rw [List.length_append, hlength]; rfl⟩, hdigits⟩

/-- A text is an address with one line feed after it. -/
def IsAddressLine (t : Text) : Prop :=
  ∃ a : Text, IsAddress a ∧ t = a ++ Text.ofString "\n"

/-- There is no line feed in an address. -/
lemma IsAddress.lineFeed_not_mem {t : Text} (h : IsAddress t) : CodePoint.scalar '\n' ∉ t := by
  obtain ⟨digits, rfl, -, hdigits⟩ := h
  intro hmem
  rcases List.mem_append.mp hmem with hzerox | hdigit
  · exact absurd hzerox (by decide)
  · have hhex := (isAddressDigit_iff _).mpr (hdigits _ hdigit)
    exact absurd hhex (by decide)

/-- An address has no line feed after it. -/
lemma IsAddress.not_isAddressLine {t : Text} (h : IsAddress t) : ¬ IsAddressLine t := by
  rintro ⟨a, -, rfl⟩
  exact h.lineFeed_not_mem (List.mem_append_right a (by decide))

/-- An address can be encoded. -/
lemma IsAddress.toString?_isNone {t : Text} (h : IsAddress t) : t.toString?.isNone = false := by
  obtain ⟨digits, rfl, -, hdigits⟩ := h
  rw [Text.toString?_isNone, List.any_append, Bool.or_eq_false_iff]
  refine ⟨by decide, List.any_eq_false.mpr ?_⟩
  intro p hp
  obtain ⟨c, rfl, -⟩ := hdigits p hp
  exact Bool.false_ne_true

/-! ## The pattern and the addresses -/

/-- The pattern fits at the beginning of a text, before whatever counts as the end. -/
lemma fits_addressItems_iff {atEnd : Text → Prop} {before rest : Text} :
    addressItems.Fits atEnd before rest ↔
      before = [] ∧ ∃ a tail, IsAddress a ∧ rest = a ++ tail ∧ atEnd tail := by
  constructor
  · intro h
    cases h with
    | start h =>
      cases h with
      | char h =>
        cases h with
        | char h =>
          cases h with
          | @repeated _ _ digits tail _ _ hlength hin h =>
            cases h with
            | finish hend _ => exact ⟨rfl, _, tail, ⟨digits, rfl, hlength, hin⟩, rfl, hend⟩
  · rintro ⟨rfl, a, tail, ⟨digits, rfl, hlength, hin⟩, rfl, hend⟩
    exact .start (.char (.char (.repeated hlength hin (.finish hend .nil))))

/-- Up to the end of a text, the pattern describes addresses. -/
lemma fitsWithin_textEnd_iff (t : Text) :
    addressItems.FitsWithin TextEnd t ↔ IsAddress t := by
  constructor
  · rintro ⟨before, rest, rfl, hfits⟩
    obtain ⟨rfl, a, tail, ha, rfl, rfl⟩ := fits_addressItems_iff.mp hfits
    simpa using ha
  · intro h
    exact ⟨[], t, rfl, fits_addressItems_iff.mpr ⟨rfl, t, [], h, by simp, rfl⟩⟩

/-- Up to the end of a line, the pattern describes addresses and address lines. -/
lemma fits_lineEnd_iff (t : Text) :
    addressItems.Fits LineEnd [] t ↔ IsAddress t ∨ IsAddressLine t := by
  rw [fits_addressItems_iff]
  constructor
  · rintro ⟨-, a, tail, ha, rfl, rfl | rfl⟩
    · exact .inl (by simpa using ha)
    · exact .inr ⟨a, ha, rfl⟩
  · rintro (h | ⟨a, ha, rfl⟩)
    · exact ⟨rfl, t, [], h, by simp, .inl rfl⟩
    · exact ⟨rfl, a, _, ha, rfl, .inr rfl⟩

/-! ## The two checks -/

/-- The check of paths accepts addresses and address lines. -/
lemma isPathAddress_iff (t : Text) :
    isPathAddress t = true ↔ IsAddress t ∨ IsAddressLine t := by
  rw [isPathAddress, isAddress_iff, dropLineFeed, Text.endsWith]
  by_cases hline : (Text.ofString "\n").isSuffixOf t = true
  · rw [if_pos hline]
    obtain ⟨a, rfl⟩ := List.isSuffixOf_iff_suffix.mp hline
    have hdrop : (a ++ Text.ofString "\n").dropLast = a := List.dropLast_concat
    rw [hdrop]
    constructor
    · intro ha
      exact .inr ⟨a, ha, rfl⟩
    · rintro (h | ⟨a', ha', heq⟩)
      · exact absurd (List.mem_append_right a (by decide)) h.lineFeed_not_mem
      · rwa [List.append_cancel_right heq]
  · rw [if_neg hline]
    constructor
    · exact .inl
    · rintro (h | ⟨a, -, rfl⟩)
      · exact h
      · exact absurd (List.isSuffixOf_iff_suffix.mpr (List.suffix_append a _)) hline

namespace AuditRequest

/-- The check of bodies passes an address on as it is. -/
lemma readAddress_of_isAddress {t : Text} (h : IsAddress t) : readAddress (.str t) = .ok t := by
  rw [readAddress, h.toString?_isNone, if_neg Bool.false_ne_true, if_pos ((isAddress_iff t).mpr h)]

/-- The check of bodies refuses every other text. -/
lemma readAddress_of_not_isAddress {t : Text} (h : ¬ IsAddress t) :
    ∃ d, readAddress (.str t) = .error d := by
  rw [readAddress]
  by_cases hsurrogate : t.toString?.isNone = true
  · exact ⟨_, if_pos hsurrogate⟩
  · rw [if_neg hsurrogate, if_neg (mt (isAddress_iff t).mp h)]
    exact ⟨_, rfl⟩

/-- The check of bodies accepts addresses and nothing else. -/
lemma readAddress_eq_ok_iff (t : Text) : readAddress (.str t) = .ok t ↔ IsAddress t := by
  by_cases h : IsAddress t
  · exact iff_of_true (readAddress_of_isAddress h) h
  · obtain ⟨d, hd⟩ := readAddress_of_not_isAddress h
    refine iff_of_false ?_ h
    rw [hd]
    exact nofun

/-- What a request with a good source and this address comes to. -/
def AddressOutcome (members : List (Text × Json)) (name source t : Text) : Prop :=
  (IsAddress t → ofMembers members = .ok ⟨source, t⟩) ∧
    (¬ IsAddress t → ∃ d, ofMembers members = .error [⟨⟨[.member name], d⟩, .str t⟩])

/-- How a request ends whose source is in order and whose address is a text. -/
lemma addressOutcome {members : List (Text × Json)} {name source t : Text}
    (hsource : readMember members [sourceName] none readSource = .ok source)
    (hgiven : firstGiven? members addressNames = some (name, .str t)) :
    AddressOutcome members name source t := by
  constructor
  · intro h
    rw [ofMembers, hsource, readMember, hgiven]
    simp only [readAddress_of_isAddress h, Except.mapError]
  · intro h
    obtain ⟨d, hd⟩ := readAddress_of_not_isAddress h
    rw [ofMembers, hsource, readMember, hgiven]
    simp only [hd, Except.mapError]
    exact ⟨d, rfl⟩

end AuditRequest

/-- A path without an address is refused, with a record and no change to the service. -/
lemma Api.serveAddress_of_not_isPathAddress (api : Api) (s : Session) {t : Text}
    (h : ¬ isPathAddress t = true) :
    api.serveAddress s t =
      ⟨some ⟨400, [], .json (Json.ofFields [("detail", .ofString "Invalid contract address format")])⟩,
        s, .ofLog [invalidAddressRecord t]⟩ := by
  rw [Api.serveAddress, if_neg h]
  rfl

/-- The check of bodies accepts the addresses and nothing else. The check of paths accepts also an
address with a line feed after it, which is all that the two disagree on. -/
theorem address_checks (t : Text) :
    addressItems.written = addressPattern ∧
    (isPathAddress t = true ↔ addressItems.Fits LineEnd [] t) ∧
    (AuditRequest.readAddress (.str t) = .ok t ↔ addressItems.FitsWithin TextEnd t) ∧
    (isPathAddress t = true ↔ IsAddress t ∨ IsAddressLine t) ∧
    (AuditRequest.readAddress (.str t) = .ok t ↔ IsAddress t) ∧
    ((isPathAddress t = true ↔ AuditRequest.readAddress (.str t) = .ok t) ↔ ¬ IsAddressLine t) ∧
    (∀ members name source,
      AuditRequest.readMember members [AuditRequest.sourceName] none AuditRequest.readSource =
          .ok source →
        AuditRequest.firstGiven? members AuditRequest.addressNames = some (name, .str t) →
          AuditRequest.AddressOutcome members name source t) ∧
    (∀ (api : Api) (s : Session),
      (isPathAddress t = true → (api.serveAddress s t).session = (s.auditAddress t).2 ∧
        (api.serveAddress s t).response = api.responseOf (s.auditAddress t).1.outcome) ∧
      (¬ isPathAddress t = true → api.serveAddress s t =
        ⟨some ⟨400, [],
            .json (Json.ofFields [("detail", .ofString "Invalid contract address format")])⟩,
          s, .ofLog [invalidAddressRecord t]⟩)) := by
  have hpath := isPathAddress_iff t
  have hbody := AuditRequest.readAddress_eq_ok_iff t
  refine ⟨written_addressItems, ?_, ?_, hpath, hbody, ?_, ?_, ?_⟩
  · rw [hpath, fits_lineEnd_iff]
  · rw [hbody, fitsWithin_textEnd_iff]
  · rw [hpath, hbody]
    constructor
    · intro hagree hline
      exact (hagree.mp (.inr hline)).not_isAddressLine hline
    · intro hline
      rw [or_iff_left hline]
  · intro members name source hsource hgiven
    exact AuditRequest.addressOutcome hsource hgiven
  · intro api s
    refine ⟨?_, api.serveAddress_of_not_isPathAddress s⟩
    intro haccepted
    rw [Api.serveAddress, if_pos haccepted]
    exact ⟨rfl, rfl⟩

/-- An address of a path that is an address and a line feed. -/
def addressLine : Text :=
  Text.ofString "0x1234567890123456789012345678901234567890\n"

/-- A line feed after an address passes the check of paths, though it makes the text no address and
the check of bodies refuses it. -/
theorem isPathAddress_addressLine :
    isPathAddress addressLine = true ∧ ¬ IsAddress addressLine ∧
      AuditRequest.readAddress (.str addressLine) = .error (.patternMismatch addressPattern) := by
  refine ⟨by decide, ?_, rfl⟩
  intro h
  exact h.lineFeed_not_mem (by decide)

/-- A request whose address is an address and a line feed. -/
def lineRequest : List (Text × Json) :=
  [(Text.ofString "source", .ofString "contract C \x7b\x7d"),
    (Text.ofString "contract_address", .str addressLine)]

/-- A request whose address ends in a line feed. -/
theorem address_checks_lineRequest :
    AuditRequest.readMember lineRequest [AuditRequest.sourceName] none AuditRequest.readSource =
        .ok (Text.ofString "contract C \x7b\x7d") ∧
      AuditRequest.firstGiven? lineRequest AuditRequest.addressNames =
        some (Text.ofString "contract_address", .str addressLine) ∧
      AuditRequest.AddressOutcome lineRequest (Text.ofString "contract_address")
        (Text.ofString "contract C \x7b\x7d") addressLine :=
  ⟨rfl, rfl, (address_checks addressLine).2.2.2.2.2.2.1 _ _ _ rfl rfl⟩

end ContractAudit
