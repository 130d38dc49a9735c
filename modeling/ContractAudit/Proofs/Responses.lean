import ContractAudit.Proofs.AddressForms
import ContractAudit.Proofs.LookupFailures
import ContractAudit.Proofs.Outcomes
import ContractAudit.Proofs.Scores
import ContractAudit.Proofs.ServiceRuns

/-!
# Responses to audits of addresses

The response to an audit of an address has one of three statuses, if there is one. There is none
exactly if the lookups break the audit, or the explorer has a name for the contract that no report
can carry (`Auditor.Unanswered`); such a name is kept, and breaks the audits that meet it later.

Whatever is kept for a service can be told (`AuditState.Tellable`): the reports are values that can be
sent, and the messages of failed analyses are Unicode. Every step of a service keeps this.
-/

namespace ContractAudit

/-! ## Values that can be sent -/

namespace Json

/-- Values can be sent together exactly if each can be. -/
lemma areSendable_iff {items : List Json} :
    areSendable items = true ↔ ∀ v ∈ items, v.isSendable = true := by
  induction items with
  | nil => simp [areSendable]
  | cons v items ih => simp [areSendable, ih]

/-- A string can be sent. -/
lemma isSendable_ofString (s : String) : (ofString s).isSendable = true := by
  rw [ofString, isSendable]
  exact Text.isSome_toString?_ofString s

/-- A string that may be missing can be sent. -/
lemma isSendable_ofString? (s : Option String) : (ofString? s).isSendable = true := by
  cases s with
  | none => rfl
  | some s => exact isSendable_ofString s

/-- An object with names of Unicode can be sent exactly if its values can be. -/
lemma isSendable_ofFields_iff {fields : List (String × Json)} :
    (ofFields fields).isSendable = true ↔ ∀ field ∈ fields, field.2.isSendable = true := by
  rw [ofFields, isSendable]
  induction fields with
  | nil => simp [areMembersSendable]
  | cons field fields ih => simp [areMembersSendable, ih, Text.toString?_ofString]

end Json

namespace Report

/-- The address and the name are Unicode. -/
structure Presentable (r : Report) : Prop where
  address : r.score.address.toString?.isSome
  name : ∀ t, r.contractName = some t → t.toString?.isSome

/-- A table of counts can be sent. -/
lemma isSendable_tableJson {κ : Type} (name : κ → String) (rows : List (κ × Int)) :
    (tableJson name rows).isSendable = true := by
  rw [tableJson, Json.isSendable_ofFields_iff]
  intro field hfield
  obtain ⟨row, -, rfl⟩ := List.mem_map.1 hfield
  rfl

/-- An issue can be sent if its number can be. -/
lemma isSendable_issueJson {shownId : Nat → Json} (hids : ∀ n, (shownId n).isSendable = true)
    (i : Issue) : (issueJson shownId i).isSendable = true := by
  rw [issueJson, Json.isSendable_ofFields_iff]
  simp only [List.forall_mem_cons, hids, Json.isSendable_ofString, Json.isSendable_ofString?,
    List.not_mem_nil, false_implies, implies_true, true_and, and_true]
  cases i.finding.location with
  | none => rfl
  | some l => rfl

/-- A report can be sent if its address and its name are Unicode. -/
lemma Presentable.isSendable {r : Report} (h : r.Presentable) {shownId : Nat → Json}
    (hids : ∀ n, (shownId n).isSendable = true) : (r.toJson shownId).isSendable = true := by
  have hissues : Json.areSendable (r.score.issues.map (issueJson shownId)) = true := by
    rw [Json.areSendable_iff]
    intro v hv
    obtain ⟨i, -, rfl⟩ := List.mem_map.1 hv
    exact isSendable_issueJson hids i
  rw [toJson, Json.isSendable_ofFields_iff]
  simp only [List.forall_mem_cons, Json.isSendable, h.address, hissues, Json.isSendable_ofString,
    Json.isSendable_ofFields_iff, isSendable_tableJson, List.not_mem_nil, false_implies,
    implies_true, true_and, and_true]
  cases hname : r.contractName with
  | none => rfl
  | some t => exact h.name t hname

end Report

/-! ## Responses -/

namespace ApiResponse

/-- A response has the status it was made with. -/
lemma status_of_json? {status : Nat} {v : Json} {response : ApiResponse}
    (h : json? status v = some response) : response.status = status := by
  unfold json? at h
  split at h
  · cases h
    rfl
  · cases h

/-- A message can be sent exactly if it is Unicode. -/
lemma detail?_eq_none_iff {status : Nat} {t : Text} :
    detail? status (.str t) = none ↔ t.toString? = none := by
  have hsendable : (Json.ofFields [("detail", .str t)]).isSendable = t.toString?.isSome := by
    rw [Bool.eq_iff_iff, Json.isSendable_ofFields_iff]
    simp [Json.isSendable]
  rw [detail?, json?, hsendable]
  cases t.toString? with
  | none => simp
  | some s => simp

end ApiResponse

namespace Api

variable {api : Api}

/-- A response to an audit reports, or says that there is no source or that it was not analysed. -/
lemma status_of_responseOf {outcome : Except AuditError Report} {response : ApiResponse}
    (h : api.responseOf outcome = some response) :
    response.status = 200 ∨ response.status = 404 ∨ response.status = 422 := by
  unfold responseOf at h
  split at h
  · exact .inl (ApiResponse.status_of_json? h)
  · split at h
    · exact .inr (.inl (ApiResponse.status_of_json? h))
    · cases h
  · exact .inr (.inr (ApiResponse.status_of_json? h))
  · cases h

/-- A failed lookup has no response exactly if its error is unforeseen or no Unicode. -/
lemma responseOf_lookup_eq_none_iff {err : LookupError} :
    api.responseOf (.error (.lookup err)) = none ↔
      err.isSourceError = false ∨ err.message.toString? = none := by
  rw [responseOf]
  cases err.isSourceError with
  | false => simp
  | true => simp [ApiResponse.detail?_eq_none_iff]

/-- A presentable report has a response. -/
lemma responseOf_ok_ne_none {r : Report} (h : r.Presentable)
    (hids : ∀ n, (api.shownId n).isSendable = true) : api.responseOf (.ok r) ≠ none := by
  rw [responseOf, ApiResponse.json?, if_pos (h.isSendable hids)]
  exact nofun

end Api

/-! ## Names -/

/-- A name that a report can carry is Unicode. -/
lemma Json.IsName.of_nameOf {v : Json} (h : v.IsName) {t : Text} (ht : nameOf v = some t) :
    t.toString?.isSome := by
  rcases h with rfl | ⟨t', rfl, ht'⟩
  · cases ht
  · cases ht
    exact ht'

/-- A report can carry every string as a name. -/
lemma Json.isName_ofString (s : String) : (ofString s).IsName :=
  .inr ⟨_, rfl, Text.isSome_toString?_ofString s⟩

/-- A score in range with a Unicode address has a report exactly if that can carry the name. -/
lemma reportOf_cases {s : Score} (hs : s.InRange) (name : Json) :
    (∃ r, reportOf s name = .ok r ∧ r.Presentable ∧ name.IsName) ∨
      ∃ problems, reportOf s name = .error problems ∧
        (s.address.toString?.isSome → ¬ name.IsName) := by
  cases hreport : reportOf s name with
  | ok r =>
    obtain ⟨⟨haddress, hname, -⟩, rfl⟩ := reportOf_eq_ok_iff.1 hreport
    exact .inl ⟨_, rfl, ⟨haddress, fun t ht => hname.of_nameOf ht⟩, hname⟩
  | error problems =>
    refine .inr ⟨problems, rfl, ?_⟩
    intro haddress hname
    have hok := reportOf_eq_ok_iff.2 ⟨⟨haddress, hname, hs⟩, rfl⟩
    rw [hreport] at hok
    cases hok

/-! ## Analyses that can be told -/

/-- The analysis is one of an address with this key, and its message is Unicode if it has one. -/
structure Analysis.Tellable (key : Text) (an : Analysis) : Prop where
  address : an.address.lower = key
  message : ∀ message, an.outcome = .failed message → message.toString?.isSome

/-- What can be told about the address of a key can be told about every address of it. -/
lemma Analysis.Tellable.isSome_address {x : Text} {an : Analysis} (h : an.Tellable x.lower)
    (hx : x.toString?.isSome) : an.address.toString?.isSome := by
  rw [← Option.not_isNone, Text.toString?_isNone] at hx ⊢
  rw [← Text.lower_any_isSurrogate, h.address, Text.lower_any_isSurrogate]
  exact hx

namespace Auditor

variable {a : Auditor} {m : Moment} {next : NextReplies} {x source : Text} {an : Analysis} {n : Nat}

/-- What an analysis says of its own accord is Unicode. -/
lemma tellable_analyse {log : List LogRecord} (h : a.analyse m x source n = .ok (an, log)) :
    an.Tellable x.lower ∧ an.contractName.IsName := by
  unfold analyse at h
  split at h
  · cases h
  · rename_i v log hverdict
    cases h
    cases v with
    | failed e =>
      refine ⟨⟨rfl, ?_⟩, .inl rfl⟩
      rintro message ⟨⟩
      exact Text.isSome_toString?_ofString _
    | completed name findings => exact ⟨⟨rfl, nofun⟩, Json.isName_ofString name⟩

end Auditor

namespace Analysis

variable {an : Analysis} {key : Text}

/-- The explorer's name changes nothing about what can be told. -/
lemma Tellable.withExplorerName (h : an.Tellable key) (name : Json) :
    (an.withExplorerName name).Tellable key := by
  unfold Analysis.withExplorerName
  split
  · split
    · exact ⟨h.address, nofun⟩
    · exact h
  · exact h

/-- Only a name of the explorer, given to a contract without one, is no name for a report. -/
lemma not_isName_withExplorerName_iff (hown : an.contractName.IsName) (name : Json) :
    ¬ (an.withExplorerName name).contractName.IsName ↔
      an.contractName.isString unknownContract = true ∧ name.truthy = true ∧ ¬ name.IsName := by
  obtain ⟨address, outcome, timestamp⟩ := an
  cases outcome with
  | failed message => exact iff_of_false (not_not.2 hown) (fun h => nomatch h.1)
  | completed own issues =>
    by_cases hreplaced : own.isString unknownContract && name.truthy
    · have hparts := Bool.and_eq_true_iff.1 hreplaced
      simp [withExplorerName, contractName, hparts]
    · have hparts := mt Bool.and_eq_true_iff.2 hreplaced
      simp only [withExplorerName, if_neg hreplaced]
      refine iff_of_false (not_not.2 hown) ?_
      rintro ⟨hunknown, hgiven, -⟩
      exact hparts ⟨hunknown, hgiven⟩

end Analysis

namespace Auditor

variable {a : Auditor} {m : Moment} {next : NextReplies} {x : Text} {an : Analysis} {n : Nat}

/-- Every report that is made is presentable. -/
lemma presentable_of_report {r : Report} (h : (a.report m an).1 = .ok r) : r.Presentable := by
  unfold report at h
  split at h
  · cases h
  · rename_i name issues houtcome
    rcases reportOf_cases (inRange_scoreOf a.weights an.address issues m.timestamp) name with
      ⟨r', hr', hpresentable, -⟩ | ⟨problems, hproblems, -⟩
    · simp only [hr', Except.mapError] at h
      cases h
      exact hpresentable
    · simp only [hproblems, Except.mapError] at h
      cases h

/-- The report on an analysis breaks an audit exactly if it cannot carry the name. -/
lemma responseOf_report_eq_none_iff {api : Api} (hids : ∀ n, (api.shownId n).isSendable = true)
    (hx : x.toString?.isSome) (h : an.Tellable x.lower) :
    api.responseOf (a.report m an).1 = none ↔ ¬ an.contractName.IsName := by
  have haddress := h.isSome_address hx
  obtain ⟨address, outcome, timestamp⟩ := an
  cases outcome with
  | failed message =>
    refine iff_of_false ?_ (not_not.2 (.inl rfl))
    rw [report, Api.responseOf, ApiResponse.detail?_eq_none_iff]
    exact Option.isSome_iff_ne_none.1 (h.message message rfl)
  | completed name issues =>
    rcases reportOf_cases (inRange_scoreOf a.weights address issues m.timestamp) name with
      ⟨r, hr, hpresentable, hname⟩ | ⟨problems, hproblems, hname⟩
    · simp only [report, hr, Except.mapError]
      exact iff_of_false (Api.responseOf_ok_ne_none hpresentable hids) (not_not.2 hname)
    · simp only [report, hproblems, Except.mapError]
      exact iff_of_true rfl (hname haddress)

/-- What is deployed and can be analysed can be told. -/
lemma tellable_analyseDeployed (h : (a.analyseDeployed m next x n).1 = .ok an) :
    an.Tellable x.lower := by
  obtain ⟨contract, plain, log, -, hplain, rfl⟩ := analyseDeployed_eq_ok_iff.1 h
  exact (tellable_analyse hplain).1.withExplorerName _

end Auditor

/-! ## What is kept can be told -/

/-- What is kept can be told, up to the names of contracts. -/
structure AuditState.Tellable (s : AuditState) : Prop where
  analyses : s.analyses.cache.Holds fun key value => ∀ an, value = some an → an.Tellable key
  reports : s.reports.cache.Holds fun _ value => ∀ r, value = some r → r.Presentable

namespace Auditor

variable {a : Auditor} {m : Moment} {next : NextReplies} {x : Text} {s s' : AuditState}
  {an : Analysis} {queries : List Query}

/-- An analysis that is at hand can be told. -/
lemma Obtains.tellable (h : a.Obtains m next x s an s' queries) (hs : s.Tellable) :
    an.Tellable x.lower := by
  rcases h.kept_or_fetched with hkept | ⟨hfetched, -⟩
  · exact hs.analyses.of_get hkept an rfl
  · exact tellable_analyseDeployed hfetched

/-- However an audit ends, what is kept can be told. -/
lemma Path.tellable {outcome : Except AuditError Report}
    (h : a.Path m next x s outcome s' queries) (hs : s.Tellable) : s'.Tellable where
  analyses := by
    rw [Cache.holds_iff]
    intro k hk
    rcases h.mem_analyses hk with hold | ⟨an, rfl, hfetched, -⟩
    · exact Cache.holds_iff.1 hs.analyses k hold
    · rintro an' ⟨⟩
      exact tellable_analyseDeployed hfetched
  reports := by
    rw [Cache.holds_iff]
    intro k hk
    rcases h.mem_reports hk with hold | ⟨r, an, s'', rfl, -, hreport, -⟩
    · exact Cache.holds_iff.1 hs.reports k hold
    · rintro r' ⟨⟩
      exact presentable_of_report hreport

end Auditor

/-- What is true of every entry stays true unless something is set. -/
lemma ResultCache.holds_after_of_ne_set {α : Type} {P : Text → Option α → Prop}
    {c : ResultCache α} (h : c.cache.Holds P) (now : Rat) (command : CacheCommand α)
    (hset : ∀ x value, command ≠ .set x value) : (c.after now command).cache.Holds P :=
  holds_after h now fun x value heq => absurd heq (hset x value)

/-- What a service keeps can be told at all times. -/
lemma Session.Reachable.tellable {s : Session} (h : s.Reachable) : s.state.Tellable := by
  induction h with
  | start hstart parse explorer node clock now =>
    rw [Settings.eq_empty_of_emptyState hstart]
    exact ⟨nofun, nofun⟩
  | @auditAddress s h x ih =>
    obtain ⟨capacity, ttl, horderly⟩ := h.orderly
    exact (s.auditor.path_auditAddress s.moment s.nextReplies x horderly.toFilled).tellable ih
  | @auditSource s h source x ih =>
    obtain ⟨n, hstate⟩ := s.auditor.auditSource_state s.moment source x s.state
    have hafter : (s.auditSource source x).2.state = { s.state with nextIssue := n } := hstate
    rw [hafter]
    exact ⟨ih.analyses, ih.reports⟩
  | advance h seconds ih => exact ih
  | answers h explorer node ih => exact ih
  | @clear s h store ih =>
    cases store with
    | analyses =>
      exact ⟨ResultCache.holds_after_of_ne_set ih.analyses s.clock .clear nofun, ih.reports⟩
    | reports =>
      exact ⟨ih.analyses, ResultCache.holds_after_of_ne_set ih.reports s.clock .clear nofun⟩
  | @forget s h store x ih =>
    cases store with
    | analyses =>
      exact ⟨ResultCache.holds_after_of_ne_set ih.analyses s.clock (.delete x) nofun, ih.reports⟩
    | reports =>
      exact ⟨ih.analyses, ResultCache.holds_after_of_ne_set ih.reports s.clock (.delete x) nofun⟩
  | @sizes s h ih =>
    exact ⟨ResultCache.holds_after_of_ne_set ih.analyses s.clock .size nofun,
      ResultCache.holds_after_of_ne_set ih.reports s.clock .size nofun⟩

/-! ## Audits without a response -/

namespace Auditor

/-- Every source is read by way of a concrete tree with types of its own. -/
def ReadsOwnTypes (a : Auditor) : Prop :=
  ∀ source, ∃ root : ParseTree, a.parse source = parseSource source root ∧ root.OwnTypes

/-- When an audit of an address breaks the request: no report is kept, and a name is kept that no
report can carry, or the lookups break it, or the explorer has such a name for a contract whose source
gives it none. -/
inductive Unanswered (a : Auditor) (m : Moment) (next : NextReplies) (x : Text) (s : AuditState) :
    Prop
  | keptName {an} (hreport : (s.reports.get m.clock x).1 = none)
      (hkept : (s.analyses.get m.clock x).1 = some an) (hname : ¬ an.contractName.IsName)
  | lookup (hreport : (s.reports.get m.clock x).1 = none)
      (hkept : (s.analyses.get m.clock x).1 = none) (h : LookupBreaks a.endpoints next x)
  | name {contract plain log} (hreport : (s.reports.get m.clock x).1 = none)
      (hkept : (s.analyses.get m.clock x).1 = none)
      (hcontract : (verifiedSource a.endpoints x next.explorer).1 = .ok contract)
      (hanalysis : a.analyse m x contract.source s.nextIssue = .ok (plain, log))
      (hown : plain.contractName.isString unknownContract = true)
      (hgiven : contract.contractName.truthy = true) (hname : ¬ contract.contractName.IsName)

variable {a : Auditor} {m : Moment} {next : NextReplies} {x : Text} {s s' : AuditState}
  {an : Analysis} {queries : List Query}

/-- An analysis of a source never ends in a fault if trees have types of their own. -/
lemma ReadsOwnTypes.exists_analyse_eq_ok (ha : a.ReadsOwnTypes) (m : Moment) (x source : Text)
    (n : Nat) : ∃ an log, a.analyse m x source n = .ok (an, log) := by
  obtain ⟨root, hparse, htypes⟩ := ha source
  by_cases hrefused : source.any Utf8.isSurrogate = true ∨ root.tag.hasError = true
  · obtain ⟨e, log, -, hanalyse⟩ := analyse_of_refused hparse hrefused m x n
    exact ⟨_, log, hanalyse a.detectors⟩
  · obtain ⟨hsource, hroot⟩ := not_or.1 hrefused
    obtain ⟨node, log, -, hanalyse⟩ := analyse_of_parsed hparse (Bool.eq_false_iff.2 hsource)
      (Bool.eq_false_iff.2 hroot) htypes m x n
    exact ⟨_, log, hanalyse⟩

/-- An analysis of what is deployed fails only where a lookup fails. -/
lemma ReadsOwnTypes.analyseDeployed_eq_error (ha : a.ReadsOwnTypes) {n : Nat} {e : AuditError}
    {trace : Trace} (h : a.analyseDeployed m next x n = (.error e, trace)) :
    ∃ err, e = .lookup err ∧ (deployedSource a.endpoints next x).1 = .error err := by
  unfold analyseDeployed at h
  split at h
  · rename_i err trace' hdeployed
    cases h
    exact ⟨err, rfl, congrArg Prod.fst hdeployed⟩
  · rename_i contract trace' hdeployed
    obtain ⟨an, log, hanalyse⟩ := ha.exists_analyse_eq_ok m x contract.source n
    simp only [hanalyse] at h
    cases h

/-- An audit that breaks a request has found no report. -/
lemma Unanswered.get_reports (h : a.Unanswered m next x s) : (s.reports.get m.clock x).1 = none := by
  cases h with
  | keptName hreport _ _ => exact hreport
  | lookup hreport _ _ => exact hreport
  | name hreport _ _ _ _ _ _ => exact hreport

/-- An analysis that an audit comes by breaks the request exactly if its name does. -/
lemma Obtains.unanswered_iff (h : a.Obtains m next x s an s' queries)
    (hreport : (s.reports.get m.clock x).1 = none) :
    a.Unanswered m next x s ↔ ¬ an.contractName.IsName := by
  cases h with
  | kept hget =>
    have hkept : (s.analyses.get m.clock x).1 = some an := congrArg Prod.fst hget
    refine ⟨?_, fun hname => .keptName hreport hkept hname⟩
    intro hbroken
    cases hbroken with
    | keptName _ hkept' hname =>
      rw [hkept] at hkept'
      cases hkept'
      exact hname
    | lookup _ hmiss _ =>
      rw [hkept] at hmiss
      cases hmiss
    | name _ hmiss _ _ _ _ _ =>
      rw [hkept] at hmiss
      cases hmiss
  | fetched hmiss hfetch hset =>
    obtain ⟨contract, plain, log, hcontract, hplain, rfl⟩ :=
      analyseDeployed_eq_ok_iff.1 (congrArg Prod.fst hfetch)
    rw [Analysis.not_isName_withExplorerName_iff (tellable_analyse hplain).2]
    constructor
    · intro hbroken
      cases hbroken with
      | keptName _ hkept _ =>
        rw [hmiss] at hkept
        cases hkept
      | lookup _ _ h => exact absurd hcontract h.not_ok
      | name _ _ hcontract' hplain' hown hgiven hname =>
        rw [hcontract] at hcontract'
        cases hcontract'
        rw [hplain] at hplain'
        cases hplain'
        exact ⟨hown, hgiven, hname⟩
    · rintro ⟨hown, hgiven, hname⟩
      exact .name hreport hmiss hcontract hplain hown hgiven hname

/-- Without an analysis, only the lookups can break the request. -/
lemma unanswered_iff_lookupBreaks (hreport : (s.reports.get m.clock x).1 = none)
    (hmiss : (s.analyses.get m.clock x).1 = none) {err : LookupError}
    (hfailed : (deployedSource a.endpoints next x).1 = .error err) :
    a.Unanswered m next x s ↔ LookupBreaks a.endpoints next x := by
  refine ⟨?_, fun h => .lookup hreport hmiss h⟩
  intro hbroken
  cases hbroken with
  | keptName _ hkept _ =>
    rw [hmiss] at hkept
    cases hkept
  | lookup _ _ h => exact h
  | name _ _ hcontract _ _ _ _ =>
    rw [deployedSource_eq_ok_iff.2 hcontract] at hfailed
    cases hfailed

/-- An audit has no response exactly if it is unanswered, whichever path it takes. -/
lemma Path.responseOf_eq_none_iff {api : Api} {outcome : Except AuditError Report} {capacity : Nat}
    {ttl : Rat} (h : a.Path m next x s outcome s' queries) (ha : a.ReadsOwnTypes)
    (hids : ∀ n, (api.shownId n).isSendable = true) (hx : x.toString?.isSome)
    (horderly : s.Orderly capacity ttl) (hroom : 0 < capacity) (hs : s.Tellable) :
    api.responseOf outcome = none ↔ a.Unanswered m next x s := by
  cases h with
  | @repeated r reports record hget =>
    have hkept : (s.reports.get m.clock x).1 = some r := congrArg Prod.fst hget
    have hpresentable : r.Presentable := hs.reports.of_get hkept r rfl
    refine iff_of_false (Api.responseOf_ok_ne_none ⟨hpresentable.address, hpresentable.name⟩ hids) ?_
    intro hbroken
    rw [hbroken.get_reports] at hkept
    cases hkept
  | unfetched hmiss hanalysis hfetch =>
    obtain ⟨err, rfl, hfailed⟩ := ha.analyseDeployed_eq_error hfetch
    rw [unanswered_iff_lookupBreaks hmiss hanalysis hfailed, Api.responseOf_lookup_eq_none_iff,
      lookupBreaks_iff hx hfailed]
  | unkept hmiss hanalysis hfetch hset => exact absurd hset (horderly.analyses.set_ne_error hroom)
  | refused hmiss hobtains hreport =>
    rw [hobtains.unanswered_iff hmiss, ← hreport]
    exact responseOf_report_eq_none_iff hids hx (hobtains.tellable hs)
  | reportUnkept hmiss hobtains hreport hset =>
    exact absurd hset (horderly.reports.set_ne_error hroom)
  | reported hmiss hobtains hreport hset =>
    rw [hobtains.unanswered_iff hmiss, ← hreport]
    exact responseOf_report_eq_none_iff hids hx (hobtains.tellable hs)

end Auditor

/-- An address in a path is Unicode. -/
lemma isSome_toString?_of_isPathAddress {x : Text} (h : isPathAddress x = true) :
    x.toString?.isSome := by
  rcases (isPathAddress_iff x).1 h with haddress | ⟨a, haddress, rfl⟩
  · rw [← Option.not_isNone, haddress.toString?_isNone]
    rfl
  · refine Text.isSome_toString?_append ?_ (Text.isSome_toString?_ofString "\n")
    rw [← Option.not_isNone, haddress.toString?_isNone]
    rfl

/-- A lookup gives a source that is not blank, or says that there is none, unless the reply nests too
deeply or is misshapen; likewise for bytecode. A request to audit an address is answered with one of
three statuses, unless the audit is one of those that break it. -/
theorem Api.serveAddress_responses (api : Api) (s : Session) (x : Text) (hs : s.Reachable)
    (hroom : 0 < s.state.analyses.cache.capacity) (ha : s.auditor.ReadsOwnTypes)
    (hids : ∀ n, (api.shownId n).isSendable = true) (hx : isPathAddress x = true) :
    (∀ e y reply,
      (∀ contract, (verifiedSource e y reply).1 = .ok contract →
        ∃ p ∈ contract.source, p.isBlank = false) ∧
      (Unforeseen (verifiedSource e y reply).1 ↔ BreaksSource e y reply) ∧
      (Unforeseen (bytecode e y reply).1 ↔ BreaksCode e y reply)) ∧
    (∀ response, (api.serveAddress s x).response = some response →
      response.status = 200 ∨ response.status = 404 ∨ response.status = 422) ∧
    ((api.serveAddress s x).response = none ↔
      s.auditor.Unanswered s.moment s.nextReplies x s.state) := by
  have hserved : (api.serveAddress s x).response =
      api.responseOf (s.auditor.auditAddress s.moment s.nextReplies x s.state).outcome := by
    rw [Api.serveAddress, if_pos hx]
    rfl
  obtain ⟨capacity, ttl, horderly⟩ := hs.orderly
  rw [horderly.analyses.capacity] at hroom
  refine ⟨?_, ?_, ?_⟩
  · intro e y reply
    exact ⟨fun contract => source_of_verifiedSource, unforeseen_verifiedSource_iff,
      unforeseen_bytecode_iff⟩
  · intro response hresponse
    rw [hserved] at hresponse
    exact Api.status_of_responseOf hresponse
  · have hpath := s.auditor.path_auditAddress s.moment s.nextReplies x horderly.toFilled
    rw [hserved]
    exact hpath.responseOf_eq_none_iff ha hids (isSome_toString?_of_isPathAddress hx) horderly hroom
      hs.tellable

/-- Settings with room for one result. -/
def smallSettings : Settings :=
  ⟨"test", false, "INFO", "node", "explorer", none, 1.0, 60, 1, none, []⟩

/-- A service that takes every source for a library, and whose explorer answers with this body. The
node says that nothing is deployed. -/
def smallService (answer : String) : Session :=
  ⟨smallSettings.auditor ⟨3, 3, 3⟩ fun source => parseSource source Auditor.namedLibrary,
    .empty 1 60,
    ⟨[.response 200 none answer.toUTF8.toList]⟩,
    ⟨[.response 200 none "\x7b\"result\": \"0x\"\x7d".toUTF8.toList]⟩, 0, .whole 0⟩

/-- A service that shows issues by their numbers. -/
def plainApi : Api :=
  ⟨[], fun n => .int n, 3⟩

/-- An address of a path. -/
def someAddress : Text :=
  Text.ofString "0x1234567890123456789012345678901234567890"

/-- The services of the examples are reachable. -/
lemma reachable_smallService (answer : String) : (smallService answer).Reachable := by
  have hstart : ∃ log, smallSettings.emptyState = .ok (.empty 1 60, log) := ⟨_, rfl⟩
  obtain ⟨log, hstart⟩ := hstart
  exact .start hstart _ _ _ _ _ _

/-- The services of the examples read trees with types of their own. -/
lemma readsOwnTypes_smallService (answer : String) :
    (smallService answer).auditor.ReadsOwnTypes := by
  intro source
  refine ⟨Auditor.namedLibrary, rfl, ?_⟩
  unfold ParseTree.OwnTypes
  decide

/-- What an explorer answers that refuses the key. -/
def refusal : String :=
  "\x7b\"status\": \"0\", \"message\": \"NOTOK\", \"result\": \"Invalid API Key\"\x7d"

/-- A service whose node knows nothing deployed answers that nothing was found. -/
theorem serveAddress_responses_refusal :
    (smallService refusal).Reachable ∧ (smallService refusal).auditor.ReadsOwnTypes ∧
      isPathAddress someAddress = true ∧
      (plainApi.serveAddress (smallService refusal) someAddress).response.map ApiResponse.status =
        some 404 ∧
      ¬ (smallService refusal).auditor.Unanswered (smallService refusal).moment
        (smallService refusal).nextReplies someAddress (smallService refusal).state := by
  have hs := reachable_smallService refusal
  have ha := readsOwnTypes_smallService refusal
  have hx : isPathAddress someAddress = true := by decide
  have hstatus : (plainApi.serveAddress (smallService refusal) someAddress).response.map
      ApiResponse.status = some 404 := by
    decide +kernel
  refine ⟨hs, ha, hx, hstatus, ?_⟩
  have hnone := (plainApi.serveAddress_responses (smallService refusal) someAddress hs (by decide) ha
    (fun _ => rfl) hx).2.2
  rw [← hnone]
  intro h
  rw [h] at hstatus
  cases hstatus

/-- An explorer that answers with an empty list is not said to have failed, and the request to audit
the address is not answered. -/
theorem serveAddress_emptyListing :
    Unforeseen (verifiedSource (smallService "[]").auditor.endpoints someAddress
        (smallService "[]").nextReplies.explorer).1 ∧
      isPathAddress someAddress = true ∧
      (plainApi.serveAddress (smallService "[]") someAddress).response.isNone = true := by
  decide +kernel

end ContractAudit
