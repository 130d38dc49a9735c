import ContractAudit.Proofs.FailedAudits
import ContractAudit.Proofs.Responses

/-!
# What an audit asks, and of whom

An audit that finds something kept asks nobody. Any other asks the explorer once, and the node once
if the explorer has no source. If the node says that nothing is deployed, so does the audit;
whatever else the node does, the audit ends with the explorer's own error
(`Session.auditAddress_traffic`).

The two replies are assumed to be foreseen (`Reply.Foreseen`): others end in errors that nobody
expects, and these are not caught on the way.
-/

namespace ContractAudit

/-! ## Foreseen replies -/

/-- A reply that is no success, has no JSON, or has an object of some form that is nested up to a
limit. -/
inductive Reply.Foreseen (limit : Nat) (form : List (Text × Json) → Prop) : Reply → Prop
  | failure (message) : Foreseen limit form (.failure message)
  | status {status location body} (h : status / 100 ≠ 2) :
      Foreseen limit form (.response status location body)
  | noJson {status location body message} (h : bodyValue limit body = .error (.failed message)) :
      Foreseen limit form (.response status location body)
  | object {status location body members} (h : bodyValue limit body = .ok (.object members))
      (hform : form members) : Foreseen limit form (.response status location body)

/-- An object whose code is missing, null, or a text that is nested up to a limit. -/
def IsEntry (limit : Nat) (entry : Json) : Prop :=
  ∃ fields, entry = .object fields ∧
    ∀ code, lookup? (Text.ofString "SourceCode") fields = some code →
      code = .null ∨ ∃ t source, code = .str t ∧ Submission.flatten limit t = .ok source

/-- The entries of the result, if it has any, are entries. -/
def IsListing (limit : Nat) (members : List (Text × Json)) : Prop :=
  ∀ entries, lookup? (Text.ofString "result") members = some (.array entries) →
    ∀ entry ∈ entries, IsEntry limit entry

/-- A reply of the explorer that is foreseen. -/
abbrev Endpoints.ForeseesExplorer (e : Endpoints) (reply : Reply) : Prop :=
  reply.Foreseen e.nesting.explorer (IsListing e.nesting.submission)

/-- A reply of the node that is foreseen. -/
abbrev Endpoints.ForeseesNode (e : Endpoints) (reply : Reply) : Prop :=
  reply.Foreseen e.nesting.node fun _ => True

section Foreseen

variable {limit : Nat} {form : List (Text × Json) → Prop} {reply : Reply}

/-- A foreseen reply is not nested too deeply. -/
lemma Reply.Foreseen.not_tooDeep (h : reply.Foreseen limit form) : ¬ reply.TooDeep limit := by
  cases h with
  | failure message => exact id
  | status hstatus => exact fun htoo => hstatus htoo.1
  | noJson hbody =>
    rintro ⟨-, htoo⟩
    rw [hbody] at htoo
    cases htoo
  | object hbody hform =>
    rintro ⟨-, htoo⟩
    rw [hbody] at htoo
    cases htoo

/-- The answer in a foreseen reply is an object of the form. -/
lemma Reply.Foreseen.exists_members (h : reply.Foreseen limit form) {answer : Json}
    (hanswer : reply.Answers limit answer) : ∃ members, answer = .object members ∧ form members := by
  cases h with
  | failure message => exact hanswer.elim
  | status hstatus => exact absurd hanswer.1 hstatus
  | noJson hbody =>
    obtain ⟨-, hvalue⟩ := hanswer
    rw [hbody] at hvalue
    cases hvalue
  | object hbody hform =>
    obtain ⟨-, hvalue⟩ := hanswer
    rw [hbody] at hvalue
    cases hvalue
    exact ⟨_, rfl, hform⟩

/-- The code of an entry can be read. -/
lemma IsEntry.not_unreadableCode {fields : List (Text × Json)}
    (h : IsEntry limit (.object fields)) : ¬ UnreadableCode limit fields := by
  obtain ⟨fields', heq, hcodes⟩ := h
  cases heq
  intro hcode
  cases hcode with
  | noText hcode hpresent hnoText =>
    rcases hcodes _ hcode with rfl | ⟨t, source, rfl, -⟩
    · cases hpresent
    · exact hnoText t rfl
  | tooDeep hcode herror =>
    rcases hcodes _ hcode with hnull | ⟨t, source, htext, hflat⟩
    · cases hnull
    · cases htext
      rw [hflat] at herror
      cases herror

/-- An object with entries is no misshapen answer. -/
lemma IsListing.not_misshapen {members : List (Text × Json)} (h : IsListing limit members) :
    ¬ MisshapenListing limit (.object members) := by
  have hentries : ∀ entry, FirstEntry members entry → IsEntry limit entry := by
    rintro entry ⟨-, more, hresult⟩
    exact h _ hresult entry List.mem_cons_self
  intro hmisshapen
  cases hmisshapen with
  | noObject hnone => exact hnone ⟨members, rfl⟩
  | entryNoObject hentry hnone =>
    obtain ⟨fields, rfl, -⟩ := hentries _ hentry
    exact hnone ⟨fields, rfl⟩
  | unreadableCode hentry hcode => exact (hentries _ hentry).not_unreadableCode hcode

variable {e : Endpoints} {x : Text}

/-- A foreseen reply of the explorer breaks nothing. -/
lemma Endpoints.ForeseesExplorer.not_unforeseen (h : e.ForeseesExplorer reply) :
    ¬ Unforeseen (verifiedSource e x reply).1 := by
  rw [unforeseen_verifiedSource_iff]
  rintro ⟨-, htoo | ⟨answer, hanswer, hmisshapen⟩⟩
  · exact h.not_tooDeep htoo
  · obtain ⟨members, rfl, hlisting⟩ := h.exists_members hanswer
    exact hlisting.not_misshapen hmisshapen

/-- A foreseen reply of the node breaks nothing. -/
lemma Endpoints.ForeseesNode.not_unforeseen (h : e.ForeseesNode reply) :
    ¬ Unforeseen (bytecode e x reply).1 := by
  rw [unforeseen_bytecode_iff]
  rintro ⟨-, htoo | ⟨answer, hanswer, hnone⟩⟩
  · exact h.not_tooDeep htoo
  · obtain ⟨members, rfl, -⟩ := h.exists_members hanswer
    exact hnone ⟨members, rfl⟩

/-! ## The explorer's own errors -/

/-- Two steps fail by the first, or by the second after the first. -/
lemma bind_eq_error {α β : Type} {err : LookupError} {found : Except LookupError α}
    {next : α → Except LookupError β} (h : found >>= next = .error err) :
    found = .error err ∨ ∃ v, found = .ok v ∧ next v = .error err := by
  cases found with
  | error err' => exact .inl (congrArg Except.error (Except.error.inj h))
  | ok v => exact .inr ⟨v, rfl, h⟩

/-- What is no object does not say that nothing is deployed. -/
lemma membersOf_ne_noContract {v : Json} {message : Text} :
    membersOf v ≠ .error (.noContract message) := by
  intro h
  cases v with
  | _ => cases h

/-- An answer without entries does not say that nothing is deployed. -/
lemma entriesOf_ne_noContract {members : List (Text × Json)} {message : Text} :
    entriesOf x members ≠ .error (.noContract message) := by
  intro h
  simp only [entriesOf] at h
  split at h
  · split at h
    · cases h
    · cases h
  · cases h
  · cases h

/-- Code that cannot be read does not say that nothing is deployed. -/
lemma flatCode_ne_noContract {fields : List (Text × Json)} {message : Text} :
    flatCode limit fields ≠ .error (.noContract message) := by
  intro h
  unfold flatCode codeOf at h
  split at h
  · rename_i err herr
    split at herr
    · cases herr
    · cases herr
    · cases herr
      cases h
  · split at h
    · cases h
    · cases h

/-- The explorer never says that nothing is deployed. -/
lemma sourceOfAnswer_ne_noContract {answer : Json} {message : Text} :
    sourceOfAnswer limit x answer ≠ .error (.noContract message) := by
  intro h
  rcases bind_eq_error h with h | ⟨members, -, h⟩
  · exact membersOf_ne_noContract h
  rcases bind_eq_error h with h | ⟨found, -, h⟩
  · exact entriesOf_ne_noContract h
  rcases bind_eq_error h with h | ⟨fields, -, h⟩
  · exact membersOf_ne_noContract h
  rcases bind_eq_error h with h | ⟨source, -, h⟩
  · exact flatCode_ne_noContract h
  split at h
  · cases h
  · cases h

/-- A foreseen reply of the explorer that gives no source says why. -/
lemma Endpoints.ForeseesExplorer.exists_failed (h : e.ForeseesExplorer reply) {err : LookupError}
    (hfailed : (verifiedSource e x reply).1 = .error err) : ∃ message, err = .failed message := by
  have hsource : err.isSourceError = true := by
    cases hsource : err.isSourceError with
    | true => rfl
    | false => exact absurd ⟨err, hfailed, hsource⟩ h.not_unforeseen
  cases err with
  | failed message => exact ⟨message, rfl⟩
  | noContract message =>
    unfold verifiedSource at hfailed
    split at hfailed
    · cases hfailed
    · cases hfailed
    · split at hfailed
      · rename_i herr
        cases hfailed
        exact absurd herr sourceOfAnswer_ne_noContract
      · cases hfailed
  | _ => cases hsource

end Foreseen

/-! ## One lookup after the other -/

section Lookups

variable {e : Endpoints} {next : NextReplies} {x : Text}

/-- For an address of Unicode the node can be asked, and the explorer if its key is one of Unicode. -/
lemma asked_of_unicode {reply : Reply} (hx : x.any Utf8.isSurrogate = false) :
    (DeniedAt e x reply ↔ reply.DeniesCode e.nesting.node) ∧
      (codeQuery e x).sent = [codeQuery e x] ∧
      ((∀ k ∈ e.explorerKey, k.any Utf8.isSurrogate = false) →
        (sourceQuery e x).sent = [sourceQuery e x]) := by
  have hcode : (codeQuery e x).Sendable := sendable_codeQuery_iff.2 hx
  refine ⟨and_iff_right hcode, Query.sent_of_sendable hcode, fun hkey => ?_⟩
  exact Query.sent_of_sendable (sendable_sourceQuery_iff.2 ⟨hx, hkey⟩)

/-- For a source that the explorer has, only the explorer is asked. -/
lemma queries_deployedSource_of_ok {contract : ContractSource}
    (h : (verifiedSource e x next.explorer).1 = .ok contract) :
    (deployedSource e next x).2.queries = [sourceQuery e x] := by
  obtain ⟨answer, hask, -⟩ := verifiedSource_eq_ok_iff.1 h
  rw [← Query.sent_of_sendable (Query.ask_eq_ok_iff.1 hask).1]
  unfold deployedSource
  split
  · rfl
  · rename_i hfailed
    rw [hfailed] at h
    cases h

/-- If the explorer has no source, both are asked, as far as they can be. -/
lemma queries_deployedSource_of_failed {message : Text}
    (h : (verifiedSource e x next.explorer).1 = .error (.failed message)) :
    (deployedSource e next x).2.queries = (sourceQuery e x).sent ++ (codeQuery e x).sent := by
  unfold deployedSource
  split
  · rename_i hok
    rw [hok] at h
    cases h
  · rename_i hfailed
    rw [hfailed] at h
    cases h
    rfl

/-- After the explorer, only the node's word that nothing is deployed counts. -/
lemma deployedSource_of_failed (hnode : ¬ Unforeseen (bytecode e x next.node).1) {message : Text}
    (h : (verifiedSource e x next.explorer).1 = .error (.failed message)) :
    (DeniedAt e x next.node ∧ (deployedSource e next x).1 = .error (nothingDeployed x)) ∨
      (¬ DeniedAt e x next.node ∧ (deployedSource e next x).1 = .error (.failed message)) := by
  rw [deployedSource_of_sourceError h rfl]
  rcases lookupFailure_cases x (.failed message) (bytecode e x next.node).1 with
    ⟨hnone, hfinal⟩ | ⟨hunforeseen, -⟩ | ⟨-, hsome, hfinal⟩
  · exact .inl ⟨bytecode_eq_noContract_iff.1 hnone, congrArg Except.error hfinal⟩
  · exact absurd hunforeseen hnode
  · refine .inr ⟨?_, congrArg Except.error hfinal⟩
    intro hdenies
    obtain ⟨message', hnone⟩ := bytecode_eq_noContract_iff.2 hdenies
    exact hsome message' hnone

/-- Nothing is said to be deployed exactly if the explorer has no source and the node says so. -/
lemma deployedSource_eq_noContract_iff (hexplorer : e.ForeseesExplorer next.explorer)
    (hnode : ¬ Unforeseen (bytecode e x next.node).1) :
    (∃ message, (deployedSource e next x).1 = .error (.noContract message)) ↔
      (∃ err, (verifiedSource e x next.explorer).1 = .error err) ∧ DeniedAt e x next.node := by
  cases hverified : (verifiedSource e x next.explorer).1 with
  | ok contract =>
    rw [deployedSource_eq_ok_iff.2 hverified]
    simp
  | error err =>
    obtain ⟨message, rfl⟩ := hexplorer.exists_failed hverified
    rcases deployedSource_of_failed hnode hverified with ⟨hdenies, hfinal⟩ | ⟨hcode, hfinal⟩
    · exact iff_of_true ⟨_, hfinal⟩ ⟨⟨_, rfl⟩, hdenies⟩
    · rw [hfinal]
      simp [hcode]

end Lookups

namespace Auditor

variable {a : Auditor} {m : Moment} {next : NextReplies} {x : Text} {s s' : AuditState}
  {an : Analysis} {queries : List Query} {outcome : Except AuditError Report} {n : Nat}

/-- A fetch asks what its lookups ask. -/
lemma queries_analyseDeployed (a : Auditor) (m : Moment) (next : NextReplies) (x : Text) (n : Nat) :
    (a.analyseDeployed m next x n).2.queries =
      (deployedSource a.endpoints next x).2.queries := by
  unfold analyseDeployed
  split
  · rename_i hfailed
    rw [hfailed]
  · rename_i hsource
    rw [hsource]
    split
    · rfl
    · simp

/-- A fetch fails by a lookup exactly with the error of its lookups. -/
lemma analyseDeployed_eq_lookup_iff {l : LookupError} :
    (a.analyseDeployed m next x n).1 = .error (.lookup l) ↔
      (deployedSource a.endpoints next x).1 = .error l := by
  unfold analyseDeployed
  split
  · rename_i hfailed
    simp [hfailed]
  · rename_i hsource
    rw [hsource]
    split
    · simp
    · simp

/-- Something is kept and nobody is asked, or nothing is kept and what is deployed is looked up. -/
inductive Traffic (a : Auditor) (m : Moment) (next : NextReplies) (x : Text) (s : AuditState) :
    Except AuditError Report → List Query → Prop
  | kept {given} (h : (s.reports.get m.clock x).1 ≠ none ∨ (s.analyses.get m.clock x).1 ≠ none)
      (houtcome : ∀ l, given ≠ .error (.lookup l)) : Traffic a m next x s given []
  | fetched {given} (hreport : (s.reports.get m.clock x).1 = none)
      (hanalysis : (s.analyses.get m.clock x).1 = none)
      (houtcome : ∀ l, given = .error (.lookup l) ↔
        (deployedSource a.endpoints next x).1 = .error l) :
      Traffic a m next x s given (deployedSource a.endpoints next x).2.queries

/-- No report fails by a lookup. -/
lemma report_ne_lookup {l : LookupError} : (a.report m an).1 ≠ .error (.lookup l) := by
  intro h
  obtain ⟨message, -, he⟩ | ⟨problems, he⟩ := report_eq_error h
  · cases he
  · cases he

/-- A fetch asks what its lookups ask, and an audit that fails by a lookup fails by one of them. -/
lemma Traffic.of_fetch {fetched : Except AuditError Analysis} {trace : Trace}
    (hreport : (s.reports.get m.clock x).1 = none)
    (hanalysis : (s.analyses.get m.clock x).1 = none)
    (hfetch : a.analyseDeployed m next x s.nextIssue = (fetched, trace))
    (houtcome : ∀ l, outcome = .error (.lookup l) ↔ fetched = .error (.lookup l)) :
    a.Traffic m next x s outcome trace.queries := by
  have hqueries := a.queries_analyseDeployed m next x s.nextIssue
  rw [hfetch] at hqueries
  rw [hqueries]
  refine .fetched hreport hanalysis fun l => ?_
  rw [houtcome l, ← analyseDeployed_eq_lookup_iff (m := m) (n := s.nextIssue), hfetch]

/-- An analysis that is at hand was kept, or was looked up. -/
lemma Obtains.traffic (h : a.Obtains m next x s an s' queries)
    (hmiss : (s.reports.get m.clock x).1 = none) (houtcome : ∀ l, outcome ≠ .error (.lookup l)) :
    a.Traffic m next x s outcome queries := by
  cases h with
  | kept hget =>
    refine .kept (.inr ?_) houtcome
    rw [hget]
    exact nofun
  | fetched hanalysis hfetch hset =>
    exact .of_fetch hmiss hanalysis hfetch fun l => iff_of_false (houtcome l) nofun

/-- However an audit ends, something was kept or what is deployed was looked up. -/
lemma Path.traffic (h : a.Path m next x s outcome s' queries) :
    a.Traffic m next x s outcome queries := by
  cases h with
  | repeated hget =>
    refine .kept (.inl ?_) nofun
    rw [hget]
    exact nofun
  | unfetched hmiss hanalysis hfetch =>
    apply Traffic.of_fetch hmiss hanalysis hfetch
    simp
  | unkept hmiss hanalysis hfetch hset =>
    exact .of_fetch hmiss hanalysis hfetch fun l => iff_of_false nofun nofun
  | refused hmiss hobtains hreport =>
    exact hobtains.traffic hmiss fun l => hreport ▸ report_ne_lookup
  | reportUnkept hmiss hobtains hreport hset => exact hobtains.traffic hmiss nofun
  | reported hmiss hobtains hreport hset => exact hobtains.traffic hmiss nofun

end Auditor

/-- Something that lives is kept for an address. -/
def ResultCache.HoldsLiving {α : Type} (c : ResultCache α) (now : Rat) (x : Text) : Prop :=
  ∃ k ∈ c.cache.kept, k.key = x.lower ∧ now < k.setAt + c.cache.ttl

/-- A report or an analysis that lives is kept for an address. -/
def AuditState.HoldsLiving (s : AuditState) (now : Rat) (x : Text) : Prop :=
  s.reports.HoldsLiving now x ∨ s.analyses.HoldsLiving now x

/-- Something that lives is kept exactly if it is found. -/
lemma ResultCache.Orderly.holdsLiving_iff {α : Type} {c : ResultCache α} {capacity : Nat}
    {ttl : Rat} (h : c.Orderly capacity ttl) (now : Rat) (x : Text) :
    c.HoldsLiving now x ↔ (c.get now x).1 ≠ none := by
  constructor
  · rintro ⟨k, hk, hkey, hlives⟩ hmiss
    have hdead := h.dead_of_miss hmiss hk hkey
    rw [← h.ttl] at hdead
    exact absurd hlives (not_lt_of_ge hdead)
  · intro hfound
    obtain ⟨v, hget⟩ := Option.ne_none_iff_exists'.1 hfound
    obtain ⟨t, hk, hlives⟩ := Cache.exists_kept_of_get hget
    exact ⟨_, hk, rfl, hlives⟩

/-- A report or an analysis that lives is kept exactly if one is found. -/
lemma AuditState.Orderly.holdsLiving_iff {s : AuditState} {capacity : Nat} {ttl : Rat}
    (h : s.Orderly capacity ttl) (now : Rat) (x : Text) :
    s.HoldsLiving now x ↔ (s.reports.get now x).1 ≠ none ∨ (s.analyses.get now x).1 ≠ none :=
  or_congr (h.reports.holdsLiving_iff now x) (h.analyses.holdsLiving_iff now x)

/-- A service whose explorer is down, and whose node knows no code. -/
def downService : Session :=
  { smallService "" with explorer := ⟨[.response 503 none []]⟩ }

/-- A body with a member is foreseen. -/
lemma Reply.Foreseen.of_member {limit status : Nat} {location : Option Text} {body : List UInt8}
    (name : String)
    (h : ((bodyValue limit body).toOption.bind fun v => v.get? name).isSome = true) :
    (Reply.response status location body).Foreseen limit fun _ => True := by
  cases hbody : bodyValue limit body with
  | error err =>
    rw [hbody] at h
    cases h
  | ok v =>
    rw [hbody] at h
    cases v with
    | object members => exact .object hbody trivial
    | _ => cases h

/-- The message of an audit that found nothing deployed. -/
def undeployedMessage? : Except AuditError Report → Option Text
  | .error (.lookup (.noContract message)) => some message
  | _ => none

/-- Only an audit that found nothing deployed has such a message. -/
lemma eq_of_undeployedMessage? {outcome : Except AuditError Report} {message : Text}
    (h : undeployedMessage? outcome = some message) :
    outcome = .error (.lookup (.noContract message)) := by
  unfold undeployedMessage? at h
  split at h
  · cases h
    rfl
  · cases h

end ContractAudit
