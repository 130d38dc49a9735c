import ContractAudit.Proofs.Transparency

/-!
# Failures of lookups

Every reply of the explorer and of the node leads to a result, to an error that says that there is no
source or no bytecode, or to an error that nobody expects (`Unforeseen`). The last happens exactly
when a success nests too deeply to be read, or is read as if it had another form than it has:
`MisshapenListing` lists the forms that the explorer's answer can have then, and the answer of the
node is no object (`unforeseen_verifiedSource_iff`, `unforeseen_bytecode_iff`).
-/

namespace ContractAudit

/-! ## Unforeseen errors -/

/-- A lookup ends with an error that does not say that there is no source or bytecode. -/
def Unforeseen {α : Type} (found : Except LookupError α) : Prop :=
  ∃ err, found = .error err ∧ err.isSourceError = false

namespace Unforeseen

variable {α β : Type} {err : LookupError}

/-- A result is no error. -/
lemma ok_iff (v : α) : Unforeseen (.ok v : Except LookupError α) ↔ False := by
  constructor
  · rintro ⟨err, herr, -⟩
    cases herr
  · exact False.elim

/-- An error is unforeseen exactly if it does not say that there is no source or bytecode. -/
lemma error_iff : Unforeseen (.error err : Except LookupError α) ↔ err.isSourceError = false := by
  constructor
  · rintro ⟨err', herr, hsource⟩
    cases herr
    exact hsource
  · intro hsource
    exact ⟨err, rfl, hsource⟩

/-- Two steps end unforeseen exactly if the first does, or the second after the first. -/
lemma bind_iff {found : Except LookupError α} {next : α → Except LookupError β} :
    Unforeseen (found >>= next) ↔ Unforeseen found ∨ ∃ v, found = .ok v ∧ Unforeseen (next v) := by
  cases found with
  | error err => simp [bind, Except.bind, error_iff]
  | ok v => simp [bind, Except.bind, ok_iff]

instance (found : Except LookupError α) : Decidable (Unforeseen found) :=
  match found with
  | .error _ => decidable_of_iff _ error_iff.symm
  | .ok v => decidable_of_iff _ (ok_iff v).symm

end Unforeseen

/-! ## Objects -/

/-- A value is an object. -/
def Json.IsObject (v : Json) : Prop :=
  ∃ members, v = .object members

/-- Only what is no object breaks a request for its members. -/
lemma unforeseen_membersOf_iff {v : Json} : Unforeseen (membersOf v) ↔ ¬ v.IsObject := by
  cases v with
  | object members => simp [membersOf, Unforeseen.ok_iff, Json.IsObject]
  | _ => simp [membersOf, Unforeseen.error_iff, Json.IsObject, LookupError.isSourceError]

/-- Only objects have members. -/
lemma membersOf_eq_ok_iff {v : Json} {members : List (Text × Json)} :
    membersOf v = .ok members ↔ v = .object members := by
  cases v with
  | object members => simp [membersOf]
  | _ => simp [membersOf]

/-- The check for a string is equality. -/
lemma Json.isString_iff {s : String} {v : Json} : v.isString s = true ↔ v = .ofString s := by
  cases v with
  | str t => simp [isString, ofString]
  | _ => simp [isString, ofString]

/-! ## The explorer -/

/-- The explorer reports a success, and this is the first entry of its result. -/
structure FirstEntry (members : List (Text × Json)) (entry : Json) : Prop where
  status : lookup? (Text.ofString "status") members = some (.ofString "1")
  result : ∃ more, lookup? (Text.ofString "result") members = some (.array (entry :: more))

/-- The code of an entry is there, but is no text or is nested beyond a limit. -/
inductive UnreadableCode (limit : Nat) (fields : List (Text × Json)) : Prop
  | noText {code} (hcode : lookup? (Text.ofString "SourceCode") fields = some code)
      (hpresent : code.truthy = true) (h : ∀ t, code ≠ .str t)
  | tooDeep {t e} (hcode : lookup? (Text.ofString "SourceCode") fields = some (.str t))
      (h : Submission.flatten limit t = .error e)

/-- The forms of an explorer's answer for which nobody is prepared, if the code may be nested up to a
limit. -/
inductive MisshapenListing (limit : Nat) : Json → Prop
  | noObject {answer} (h : ¬ answer.IsObject) : MisshapenListing limit answer
  | entryNoObject {members entry} (hentry : FirstEntry members entry) (h : ¬ entry.IsObject) :
      MisshapenListing limit (.object members)
  | unreadableCode {members fields} (hentry : FirstEntry members (.object fields))
      (h : UnreadableCode limit fields) : MisshapenListing limit (.object members)

/-- A value that may be missing is a string exactly if it is there and is the string. -/
lemma isString_getD_iff {s : String} {given : Option Json} :
    (given.map (Json.isString s)).getD false = true ↔ given = some (.ofString s) := by
  cases given with
  | none => simp
  | some v => simp [Json.isString_iff]

/-- There are entries exactly if the explorer reports a success with some. -/
lemma entriesOf_eq_ok_iff {x : Text} {members : List (Text × Json)} {found : Json × List Json} :
    entriesOf x members = .ok found ↔
      lookup? (Text.ofString "status") members = some (.ofString "1") ∧
        lookup? (Text.ofString "result") members = some (.array (found.1 :: found.2)) := by
  rw [← isString_getD_iff]
  simp only [entriesOf]
  split
  · rename_i entry more hresult
    split
    · rename_i hstatus
      simp [hstatus, hresult, Prod.ext_iff]
    · rename_i hstatus
      simp [hstatus]
  · rename_i t hresult
    simp [hresult]
  · rename_i hnoArray hnoString
    refine iff_of_false ?_ ?_
    · intro h
      cases h
    · rintro ⟨-, hresult⟩
      exact hnoArray _ _ hresult

/-- What is no entry is what the explorer says instead. -/
lemma not_unforeseen_entriesOf (x : Text) (members : List (Text × Json)) :
    ¬ Unforeseen (entriesOf x members) := by
  simp only [entriesOf]
  split
  · split
    · simp [Unforeseen.ok_iff]
    · simp [Unforeseen.error_iff, LookupError.isSourceError]
  · simp [Unforeseen.error_iff, LookupError.isSourceError]
  · simp [Unforeseen.error_iff, LookupError.isSourceError]

/-- A value that counts as present is taken as it is. -/
lemma presentOr_of_truthy {v : Json} (h : v.truthy = true) : presentOr (some v) = v := by
  rw [presentOr, if_pos h]

/-- What is taken as present was given and counts as present. -/
lemma of_presentOr_eq {given : Option Json} {v : Json} (h : presentOr given = v)
    (hv : v ≠ .null) : given = some v ∧ v.truthy = true := by
  cases given with
  | none => exact absurd h.symm hv
  | some u =>
    by_cases hpresent : u.truthy = true
    · rw [presentOr_of_truthy hpresent] at h
      subst h
      exact ⟨rfl, hpresent⟩
    · rw [presentOr, if_neg hpresent] at h
      exact absurd h.symm hv

/-- Code that is missing counts as empty. -/
lemma flatCode_of_absent {limit : Nat} {fields : List (Text × Json)}
    (h : presentOr (lookup? (Text.ofString "SourceCode") fields) = .null) :
    flatCode limit fields = .ok [] := by
  rw [flatCode, codeOf, h]
  rfl

/-- Code that is a text breaks the lookup exactly if it cannot be flattened. -/
lemma unforeseen_flatCode_of_text {limit : Nat} {fields : List (Text × Json)} {t : Text}
    (h : presentOr (lookup? (Text.ofString "SourceCode") fields) = .str t) :
    Unforeseen (flatCode limit fields) ↔ ∃ e, Submission.flatten limit t = .error e := by
  rw [flatCode, codeOf, h]
  cases hflat : Submission.flatten limit t with
  | error e => simp [hflat, Unforeseen.error_iff, LookupError.isSourceError]
  | ok code => simp [hflat, Unforeseen.ok_iff]

/-- Code that is no text breaks the lookup. -/
lemma unforeseen_flatCode_of_noText {limit : Nat} {fields : List (Text × Json)} {code : Json}
    (h : presentOr (lookup? (Text.ofString "SourceCode") fields) = code) (hnull : code ≠ .null)
    (htext : ∀ t, code ≠ .str t) : Unforeseen (flatCode limit fields) := by
  rw [flatCode, codeOf, h]
  cases code with
  | null => exact absurd rfl hnull
  | str t => exact absurd rfl (htext t)
  | _ => exact ⟨_, rfl, rfl⟩

/-- If code breaks the lookup, it is unreadable. -/
lemma UnreadableCode.of_unforeseen {limit : Nat} {fields : List (Text × Json)}
    (h : Unforeseen (flatCode limit fields)) : UnreadableCode limit fields := by
  cases hgiven : presentOr (lookup? (Text.ofString "SourceCode") fields) with
  | null =>
    rw [flatCode_of_absent hgiven, Unforeseen.ok_iff] at h
    exact h.elim
  | str t =>
    obtain ⟨e, he⟩ := (unforeseen_flatCode_of_text hgiven).1 h
    exact .tooDeep (of_presentOr_eq hgiven nofun).1 he
  | _ =>
    obtain ⟨hcode, hpresent⟩ := of_presentOr_eq hgiven nofun
    exact .noText hcode hpresent nofun

/-- Unreadable code breaks the lookup. -/
lemma UnreadableCode.unforeseen {limit : Nat} {fields : List (Text × Json)}
    (h : UnreadableCode limit fields) : Unforeseen (flatCode limit fields) := by
  cases h with
  | @noText code hcode hpresent htext =>
    have hnull : code ≠ .null := by
      rintro rfl
      cases hpresent
    refine unforeseen_flatCode_of_noText ?_ hnull htext
    rw [hcode, presentOr_of_truthy hpresent]
  | @tooDeep t e hcode he =>
    -- the empty text nests nothing
    have hpresent : (Json.str t).truthy = true := by
      cases t with
      | nil => cases he
      | cons p t => rfl
    refine (unforeseen_flatCode_of_text ?_).2 ⟨e, he⟩
    rw [hcode, presentOr_of_truthy hpresent]

/-- The last step of reading an answer decides whether the source is blank, and breaks nothing. -/
lemma not_unforeseen_ite {α : Type} {p : Prop} [Decidable p] {message : Text} {v : α} :
    ¬ Unforeseen (if p then .error (.failed message) else .ok v : Except LookupError α) := by
  split
  · simp [Unforeseen.error_iff, LookupError.isSourceError]
  · simp [Unforeseen.ok_iff]

/-- An answer of the explorer breaks the lookup exactly if it is misshapen. -/
lemma unforeseen_sourceOfAnswer_iff {limit : Nat} (x : Text) {answer : Json} :
    Unforeseen (sourceOfAnswer limit x answer) ↔ MisshapenListing limit answer := by
  simp only [sourceOfAnswer, Unforeseen.bind_iff, unforeseen_membersOf_iff, membersOf_eq_ok_iff,
    not_unforeseen_entriesOf, not_unforeseen_ite, and_false, exists_false, or_false, false_or,
    entriesOf_eq_ok_iff]
  constructor
  · rintro (h | ⟨members, rfl, ⟨entry, more⟩, ⟨hstatus, hresult⟩, h⟩)
    · exact .noObject h
    · have hentry : FirstEntry members entry := ⟨hstatus, more, hresult⟩
      rcases h with h | ⟨fields, rfl, h⟩
      · exact .entryNoObject hentry h
      · exact .unreadableCode hentry (.of_unforeseen h)
  · intro h
    cases h with
    | noObject h => exact .inl h
    | @entryNoObject members entry hentry h =>
      obtain ⟨more, hresult⟩ := hentry.result
      exact .inr ⟨members, rfl, ⟨entry, more⟩, ⟨hentry.status, hresult⟩, .inl h⟩
    | @unreadableCode members fields hentry h =>
      obtain ⟨more, hresult⟩ := hentry.result
      exact .inr ⟨members, rfl, ⟨_, more⟩, ⟨hentry.status, hresult⟩,
        .inr ⟨fields, rfl, h.unforeseen⟩⟩

/-- The explorer's reply to a query that can be sent breaks the lookup: it is nested too deeply, or
its answer has a form for which nobody is prepared. -/
def BreaksSource (e : Endpoints) (x : Text) (reply : Reply) : Prop :=
  (sourceQuery e x).Sendable ∧ (reply.TooDeep e.nesting.explorer ∨
    ∃ answer, reply.Answers e.nesting.explorer answer ∧
      MisshapenListing e.nesting.submission answer)

/-- A lookup of a source ends unforeseen exactly if the explorer's reply breaks it. -/
lemma unforeseen_verifiedSource_iff {e : Endpoints} {x : Text} {reply : Reply} :
    Unforeseen (verifiedSource e x reply).1 ↔ BreaksSource e x reply := by
  simp only [BreaksSource, and_or_left, ← exists_and_left, ← and_assoc, ← Query.ask_eq_ok_iff,
    ← Query.ask_eq_tooDeep_iff, ← unforeseen_sourceOfAnswer_iff x]
  unfold verifiedSource
  split
  · rename_i hread
    simp [hread, Unforeseen.error_iff, LookupError.isSourceError]
  · rename_i message hread
    simp [hread, Unforeseen.error_iff, LookupError.isSourceError]
  · rename_i answer hread
    split
    · rename_i err herr
      simp [hread, herr]
    · rename_i source hsource
      simp [hread, hsource, Unforeseen.ok_iff]

/-- What is not empty between blanks has something that is not blank. -/
lemma exists_not_isBlank_of_strip {t : Text} (h : t.strip ≠ []) : ∃ p ∈ t, p.isBlank = false := by
  rcases hall : t.all CodePoint.isBlank with _ | _
  · obtain ⟨p, hp, hblank⟩ := List.all_eq_false.1 hall
    exact ⟨p, hp, Bool.eq_false_iff.2 hblank⟩
  · have hdrop : t.dropWhile CodePoint.isBlank = [] :=
      List.dropWhile_eq_nil_iff.2 (List.all_eq_true.1 hall)
    refine absurd ?_ h
    rw [Text.strip, stripBy, hdrop]
    rfl

/-- A verified source is not blank. -/
lemma source_of_verifiedSource {e : Endpoints} {x : Text} {reply : Reply} {c : ContractSource}
    (h : (verifiedSource e x reply).1 = .ok c) : ∃ p ∈ c.source, p.isBlank = false := by
  obtain ⟨answer, -, h⟩ := verifiedSource_eq_ok_iff.1 h
  unfold sourceOfAnswer at h
  obtain ⟨members, -, h⟩ := exists_of_bind_eq_ok h
  obtain ⟨found, -, h⟩ := exists_of_bind_eq_ok h
  obtain ⟨fields, -, h⟩ := exists_of_bind_eq_ok h
  obtain ⟨source, -, h⟩ := exists_of_bind_eq_ok h
  split at h
  · cases h
  · rename_i hblank
    cases h
    exact exists_not_isBlank_of_strip (mt List.isEmpty_iff.2 hblank)

/-! ## The node -/

/-- The node says that nothing is deployed: there is no error, and no code but the empty one. -/
def NoCode (members : List (Text × Json)) : Prop :=
  lookup? (Text.ofString "error") members = none ∧
    ∀ code, lookup? (Text.ofString "result") members = some code → code.truthy = true →
      code = .ofString "0x"

/-- What is no object has no error that can be asked for, or none at all. -/
lemma errorMember_of_not_isObject {answer : Json} (h : ¬ answer.IsObject) :
    Unforeseen (errorMember answer) ∨ errorMember answer = .ok none := by
  cases answer with
  | object members => exact absurd ⟨members, rfl⟩ h
  | str t =>
    rw [errorMember]
    split
    · exact .inl ⟨_, rfl, rfl⟩
    · exact .inr rfl
  | array items =>
    rw [errorMember]
    split
    · exact .inl ⟨_, rfl, rfl⟩
    · exact .inr rfl
  | _ => exact .inl ⟨_, rfl, rfl⟩

/-- An answer of the node that is no object breaks the lookup. -/
lemma unforeseen_codeOfAnswer_of_not_isObject (x : Text) {answer : Json} (h : ¬ answer.IsObject) :
    Unforeseen (codeOfAnswer x answer) := by
  rw [codeOfAnswer, Unforeseen.bind_iff]
  refine (errorMember_of_not_isObject h).imp_right ?_
  intro hnone
  exact ⟨none, hnone, Unforeseen.bind_iff.2 (.inl (unforeseen_membersOf_iff.2 h))⟩

/-- What an object comes to: its error, nothing deployed, or its code. -/
lemma codeOfAnswer_object (x : Text) (members : List (Text × Json)) :
    (∃ message, codeOfAnswer x (.object members) = .error (.failed message) ∧ ¬ NoCode members) ∨
      (codeOfAnswer x (.object members) = .error (nothingDeployed x) ∧ NoCode members) ∨
      ∃ code, codeOfAnswer x (.object members) = .ok code ∧ ¬ NoCode members := by
  cases herror : lookup? (Text.ofString "error") members with
  | some error =>
    refine .inl ⟨Text.ofString "RPC error for " ++ x ++ Text.ofString ": " ++ errorText error,
      ?_, ?_⟩
    · simp only [codeOfAnswer, errorMember, herror, bind, Except.bind]
    · rintro ⟨hnone, -⟩
      rw [herror] at hnone
      cases hnone
  | none =>
    refine .inr ?_
    simp only [codeOfAnswer, errorMember, herror, membersOf, bind, Except.bind]
    split
    · rename_i hnull
      refine .inl ⟨rfl, herror, ?_⟩
      intro code hcode hpresent
      rw [hcode, presentOr_of_truthy hpresent] at hnull
      rw [hnull] at hpresent
      cases hpresent
    · rename_i hpresent
      obtain ⟨hcode, htruthy⟩ := of_presentOr_eq rfl hpresent
      split
      · rename_i hempty
        refine .inl ⟨rfl, herror, ?_⟩
        intro code hcode' _
        rw [hcode] at hcode'
        rw [← Option.some.inj hcode']
        exact Json.isString_iff.1 hempty
      · rename_i hcodeful
        refine .inr ⟨_, rfl, ?_⟩
        rintro ⟨-, hall⟩
        exact hcodeful (Json.isString_iff.2 (hall _ hcode htruthy))

/-- An answer of the node breaks the lookup exactly if it is no object. -/
lemma unforeseen_codeOfAnswer_iff (x : Text) {answer : Json} :
    Unforeseen (codeOfAnswer x answer) ↔ ¬ answer.IsObject := by
  refine ⟨?_, unforeseen_codeOfAnswer_of_not_isObject x⟩
  rintro ⟨err, herr, hsource⟩ ⟨members, rfl⟩
  rcases codeOfAnswer_object x members with ⟨message, h, -⟩ | ⟨h, -⟩ | ⟨code, h, -⟩
  · rw [h] at herr
    cases herr
    cases hsource
  · rw [h] at herr
    cases herr
    cases hsource
  · rw [h] at herr
    cases herr

/-- An answer of the node says that nothing is deployed exactly if it has no error and no code. -/
lemma codeOfAnswer_eq_noContract_iff (x : Text) {answer : Json} :
    (∃ message, codeOfAnswer x answer = .error (.noContract message)) ↔
      ∃ members, answer = .object members ∧ NoCode members := by
  constructor
  · rintro ⟨message, herr⟩
    by_cases hobject : answer.IsObject
    · obtain ⟨members, rfl⟩ := hobject
      rcases codeOfAnswer_object x members with ⟨message', h, -⟩ | ⟨-, hnone⟩ | ⟨code, h, -⟩
      · rw [h] at herr
        cases herr
      · exact ⟨members, rfl, hnone⟩
      · rw [h] at herr
        cases herr
    · obtain ⟨err, h, hsource⟩ := unforeseen_codeOfAnswer_of_not_isObject x hobject
      rw [h] at herr
      cases herr
      cases hsource
  · rintro ⟨members, rfl, hnone⟩
    rcases codeOfAnswer_object x members with ⟨message, -, h⟩ | ⟨h, -⟩ | ⟨code, -, h⟩
    · exact absurd hnone h
    · exact ⟨_, h⟩
    · exact absurd hnone h

/-- The node says that nothing is deployed, in an answer that is nested up to a limit. -/
def Reply.DeniesCode (limit : Nat) (reply : Reply) : Prop :=
  ∃ members, reply.Answers limit (.object members) ∧ NoCode members

/-- The node's reply to a query that can be sent breaks the lookup: it is nested too deeply, or its
answer is no object. -/
def BreaksCode (e : Endpoints) (x : Text) (reply : Reply) : Prop :=
  (codeQuery e x).Sendable ∧ (reply.TooDeep e.nesting.node ∨
    ∃ answer, reply.Answers e.nesting.node answer ∧ ¬ answer.IsObject)

/-- The node is asked, and says that nothing is deployed. -/
def DeniedAt (e : Endpoints) (x : Text) (reply : Reply) : Prop :=
  (codeQuery e x).Sendable ∧ reply.DeniesCode e.nesting.node

section Bytecode

variable {e : Endpoints} {x : Text} {reply : Reply}

/-- A lookup of bytecode ends unforeseen exactly if the node's reply breaks it. -/
lemma unforeseen_bytecode_iff : Unforeseen (bytecode e x reply).1 ↔ BreaksCode e x reply := by
  simp only [BreaksCode, and_or_left, ← exists_and_left, ← and_assoc, ← Query.ask_eq_ok_iff,
    ← Query.ask_eq_tooDeep_iff, ← unforeseen_codeOfAnswer_iff x]
  unfold bytecode
  split
  · rename_i hread
    simp [hread, Unforeseen.error_iff, LookupError.isSourceError]
  · rename_i message hread
    simp [hread, Unforeseen.error_iff, LookupError.isSourceError]
  · rename_i answer hread
    simp [hread]

/-- A lookup of bytecode says that nothing is deployed exactly if the node was asked and says so. -/
lemma bytecode_eq_noContract_iff :
    (∃ message, (bytecode e x reply).1 = .error (.noContract message)) ↔ DeniedAt e x reply := by
  simp only [DeniedAt, Reply.DeniesCode, ← exists_and_left, ← and_assoc, ← Query.ask_eq_ok_iff]
  unfold bytecode
  split
  · rename_i hread
    simp [hread]
  · rename_i message hread
    simp [hread]
  · rename_i answer hread
    simp [hread, codeOfAnswer_eq_noContract_iff]

end Bytecode

/-! ## Both together -/

/-- Only the node's word that nothing is deployed, and an error that nobody expects, take the place
of the explorer's error. -/
lemma lookupFailure_cases (x : Text) (err : LookupError) (code : Except LookupError Json) :
    (∃ message, code = .error (.noContract message)) ∧
        (lookupFailure x err code).1 = nothingDeployed x ∨
      Unforeseen code ∧ (lookupFailure x err code).1.isSourceError = false ∨
      ¬ Unforeseen code ∧ (∀ message, code ≠ .error (.noContract message)) ∧
        (lookupFailure x err code).1 = err := by
  cases code with
  | ok code => exact .inr (.inr ⟨(Unforeseen.ok_iff code).1, nofun, rfl⟩)
  | error e =>
    rw [Unforeseen.error_iff]
    cases e with
    | noContract message => exact .inl ⟨⟨message, rfl⟩, rfl⟩
    | failed message => exact .inr (.inr ⟨nofun, nofun, rfl⟩)
    | _ => exact .inr (.inl ⟨rfl, rfl⟩)

section Deployed

variable {e : Endpoints} {next : NextReplies} {x : Text} {err : LookupError}

/-- An unforeseen error of the explorer is the error of the lookup. -/
lemma deployedSource_of_unforeseen (hfailed : (verifiedSource e x next.explorer).1 = .error err)
    (hsource : err.isSourceError = false) : (deployedSource e next x).1 = .error err := by
  unfold deployedSource
  split
  · rename_i hverified
    rw [hverified] at hfailed
    cases hfailed
  · rename_i hverified
    rw [hverified] at hfailed
    cases hfailed
    rw [if_neg (by simp [hsource])]

/-- If the explorer has no source, the node has a say in the error. -/
lemma deployedSource_of_sourceError (hfailed : (verifiedSource e x next.explorer).1 = .error err)
    (hsource : err.isSourceError = true) :
    (deployedSource e next x).1 = .error (lookupFailure x err (bytecode e x next.node).1).1 := by
  unfold deployedSource
  split
  · rename_i hverified
    rw [hverified] at hfailed
    cases hfailed
  · rename_i hverified
    rw [hverified] at hfailed
    cases hfailed
    rw [if_pos hsource]

end Deployed

/-- The lookups for an audit break it: the explorer's reply does, or there is no source and the
node's reply does, or there is no source and the explorer's words for it are no Unicode. -/
inductive LookupBreaks (e : Endpoints) (next : NextReplies) (x : Text) : Prop
  | explorer (h : BreaksSource e x next.explorer)
  | node {err} (hfailed : (verifiedSource e x next.explorer).1 = .error err)
      (hsource : err.isSourceError = true)
      (h : BreaksCode e x next.node)
  | words {err} (hfailed : (verifiedSource e x next.explorer).1 = .error err)
      (hsource : err.isSourceError = true) (hcode : ¬ DeniedAt e x next.node)
      (h : err.message.toString? = none)

/-- Lookups that break an audit do not give a source. -/
lemma LookupBreaks.not_ok {e : Endpoints} {next : NextReplies} {x : Text}
    {contract : ContractSource} (h : LookupBreaks e next x) :
    (verifiedSource e x next.explorer).1 ≠ .ok contract := by
  intro hok
  cases h with
  | explorer h =>
    have hunforeseen := unforeseen_verifiedSource_iff.2 h
    rw [hok, Unforeseen.ok_iff] at hunforeseen
    exact hunforeseen
  | node hfailed _ _ =>
    rw [hok] at hfailed
    cases hfailed
  | words hfailed _ _ _ =>
    rw [hok] at hfailed
    cases hfailed

/-- If the explorer has no source, the audit breaks by the node or by the explorer's words. -/
lemma lookupBreaks_of_sourceError_iff {e : Endpoints} {next : NextReplies} {x : Text}
    {err : LookupError} (hfailed : (verifiedSource e x next.explorer).1 = .error err)
    (hsource : err.isSourceError = true) :
    LookupBreaks e next x ↔ Unforeseen (bytecode e x next.node).1 ∨
      ¬ DeniedAt e x next.node ∧ err.message.toString? = none := by
  constructor
  · intro h
    cases h with
    | explorer h =>
      have hunforeseen := unforeseen_verifiedSource_iff.2 h
      rw [hfailed, Unforeseen.error_iff, hsource] at hunforeseen
      cases hunforeseen
    | node hfailed' hsource' h => exact .inl (unforeseen_bytecode_iff.2 h)
    | words hfailed' hsource' hcode h =>
      rw [hfailed] at hfailed'
      cases hfailed'
      exact .inr ⟨hcode, h⟩
  · rintro (h | ⟨hcode, h⟩)
    · exact .node hfailed hsource (unforeseen_bytecode_iff.1 h)
    · exact .words hfailed hsource hcode h

/-- Two texts of Unicode make one. -/
lemma Text.isSome_toString?_append {t t' : Text} (h : t.toString?.isSome)
    (h' : t'.toString?.isSome) : (t ++ t').toString?.isSome := by
  rw [← Option.not_isNone, Text.toString?_isNone] at h h' ⊢
  rw [List.any_append, Bool.not_or, h, h']
  rfl

/-- Strings are Unicode. -/
lemma Text.isSome_toString?_ofString (s : String) : (Text.ofString s).toString?.isSome := by
  rw [Text.toString?_ofString]
  rfl

/-- The error of a lookup cannot be told exactly if the lookups break the audit. -/
lemma lookupBreaks_iff {e : Endpoints} {next : NextReplies} {x : Text} {final : LookupError}
    (hx : x.toString?.isSome) (hfinal : (deployedSource e next x).1 = .error final) :
    (final.isSourceError = false ∨ final.message.toString? = none) ↔ LookupBreaks e next x := by
  cases hverified : (verifiedSource e x next.explorer).1 with
  | ok contract =>
    rw [deployedSource_eq_ok_iff.2 hverified] at hfinal
    cases hfinal
  | error err =>
    cases hsource : err.isSourceError with
    | false =>
      rw [deployedSource_of_unforeseen hverified hsource] at hfinal
      rw [← Except.error.inj hfinal]
      have hunforeseen : Unforeseen (verifiedSource e x next.explorer).1 :=
        ⟨err, hverified, hsource⟩
      exact iff_of_true (.inl hsource) (.explorer (unforeseen_verifiedSource_iff.1 hunforeseen))
    | true =>
      rw [deployedSource_of_sourceError hverified hsource] at hfinal
      rw [← Except.error.inj hfinal, lookupBreaks_of_sourceError_iff hverified hsource]
      rcases lookupFailure_cases x err (bytecode e x next.node).1 with
        ⟨hnone, hfinal⟩ | ⟨hcode, hfinal⟩ | ⟨hcode, hsome, hfinal⟩
      · rw [hfinal]
        refine iff_of_false ?_ ?_
        · rintro (h | h)
          · cases h
          · have hmessage := Text.isSome_toString?_append
              (Text.isSome_toString?_ofString "No contract found at address ") hx
            rw [nothingDeployed, LookupError.message] at h
            rw [h] at hmessage
            cases hmessage
        · rintro (⟨err', herr', hsource'⟩ | ⟨hcode, -⟩)
          · obtain ⟨message, hnone⟩ := hnone
            rw [hnone] at herr'
            cases herr'
            cases hsource'
          · exact hcode (bytecode_eq_noContract_iff.1 hnone)
      · exact iff_of_true (.inl hfinal) (.inl hcode)
      · rw [hfinal, hsource]
        have hdenies : ¬ DeniedAt e x next.node := by
          intro hdenies
          obtain ⟨message, hnone⟩ := bytecode_eq_noContract_iff.2 hdenies
          exact hsome message hnone
        simp [hcode, hdenies]

end ContractAudit
