import ContractAudit.Proofs.AuditPaths

/-!
# Failed audits

An audit that fails leaves the kept reports exactly as they are, down to the order of their uses.
The kept analyses change only where a source was fetched (`Auditor.failure_atomic`). Each part is
read off the paths that an audit can take. The caches have to be filled, as those of a service
always are (`Session.Reachable.orderly`).
-/

namespace ContractAudit

namespace Auditor

variable {a : Auditor} {m : Moment} {next : NextReplies} {x : Text} {s s' : AuditState}
  {an : Analysis} {queries : List Query}

/-- A report fails for an analysis that has failed, or for what no report can carry. -/
lemma report_eq_error {e : AuditError} (h : (a.report m an).1 = .error e) :
    (∃ message, an.outcome = .failed message ∧ e = .unanalysed message) ∨
      ∃ problems, e = .invalidReport problems := by
  unfold report at h
  split at h
  · rename_i message houtcome
    cases h
    exact .inl ⟨message, houtcome, rfl⟩
  · rename_i name issues houtcome
    simp only at h
    cases hreport : reportOf (scoreOf a.weights an.address issues m.timestamp) name with
    | error problems =>
      rw [hreport] at h
      cases h
      exact .inr ⟨problems, rfl⟩
    | ok r =>
      rw [hreport] at h
      cases h

/-- No analysis comes of a lookup that fails or of a fault. -/
lemma analyseDeployed_eq_error {n : Nat} {e : AuditError} {trace : Trace}
    (h : a.analyseDeployed m next x n = (.error e, trace)) :
    (∃ l, e = .lookup l) ∨ ∃ f, e = .fault f := by
  unfold analyseDeployed at h
  split at h
  · cases h
    exact .inl ⟨_, rfl⟩
  · split at h
    · cases h
      exact .inr ⟨_, rfl⟩
    · cases h

/-- An audit that fails leaves the kept reports alone. -/
lemma Path.reports_of_error {e : AuditError} (h : a.Path m next x s (.error e) s' queries) :
    s'.reports = s.reports := by
  cases h with
  | unfetched hmiss hanalysis hfetch => rfl
  | unkept hmiss hanalysis hfetch hset => rfl
  | refused hmiss hobtains hreport => exact hobtains.reports_eq
  | reportUnkept hmiss hobtains hreport hset => exact hobtains.reports_eq

/-- Only a fetch that fails leads to a failed lookup. -/
lemma Path.analyses_of_lookup {l : LookupError}
    (h : a.Path m next x s (.error (.lookup l)) s' queries) : s'.analyses = s.analyses := by
  cases h with
  | unfetched hmiss hanalysis hfetch => rfl
  | refused hmiss hobtains hreport =>
    obtain ⟨message, -, he⟩ | ⟨problems, he⟩ := report_eq_error hreport
    · cases he
    · cases he

/-- A source that was fetched and could not be analysed is kept as such. -/
lemma Path.analyses_of_unanalysed {message : Text}
    (h : a.Path m next x s (.error (.unanalysed message)) s' queries) (hqueries : queries ≠ []) :
    ∃ an record, (a.analyseDeployed m next x s.nextIssue).1 = .ok an ∧
      an.outcome = .failed message ∧
      s.analyses.set m.clock x (some an) = .ok (s'.analyses, record) := by
  cases h with
  | unfetched hmiss hanalysis hfetch =>
    obtain ⟨l, he⟩ | ⟨f, he⟩ := analyseDeployed_eq_error hfetch
    · cases he
    · cases he
  | refused hmiss hobtains hreport =>
    obtain ⟨failure, houtcome, he⟩ | ⟨problems, he⟩ := report_eq_error hreport
    · cases he
      cases hobtains with
      | kept hget => exact absurd rfl hqueries
      | fetched hanalysis hfetch hset => exact ⟨_, _, congrArg Prod.fst hfetch, houtcome, hset⟩
    · cases he

/-- A failed audit leaves the kept reports exactly as they are. The kept analyses change only where
a source was fetched: they stay if it was not found, and gain its failed analysis if it could not
be analysed. An audit of a given source neither changes nor reads what is kept. -/
theorem failure_atomic (a : Auditor) (m : Moment) (next : NextReplies) (x : Text) (s : AuditState)
    (hs : s.Filled) :
    (∀ e, (a.auditAddress m next x s).outcome = .error e →
      (a.auditAddress m next x s).state.reports = s.reports ∧
      (∀ l, e = .lookup l → (a.auditAddress m next x s).state.analyses = s.analyses) ∧
      ∀ message, e = .unanalysed message → (a.auditAddress m next x s).trace.queries ≠ [] →
        ∃ an record, (a.analyseDeployed m next x s.nextIssue).1 = .ok an ∧
          an.outcome = .failed message ∧
          s.analyses.set m.clock x (some an) =
            .ok ((a.auditAddress m next x s).state.analyses, record)) ∧
    ∀ source, (a.auditSource m source x s).state.analyses = s.analyses ∧
      (a.auditSource m source x s).state.reports = s.reports ∧
      ∀ analyses reports, (a.auditSource m source x ⟨analyses, reports, s.nextIssue⟩).outcome =
        (a.auditSource m source x s).outcome := by
  constructor
  · intro e houtcome
    have hpath := a.path_auditAddress m next x hs
    rw [houtcome] at hpath
    refine ⟨hpath.reports_of_error, ?_, ?_⟩
    · rintro l rfl
      exact hpath.analyses_of_lookup
    · rintro message rfl hqueries
      exact hpath.analyses_of_unanalysed hqueries
  · intro source
    obtain ⟨n, hstate⟩ := a.auditSource_state m source x s
    rw [hstate]
    refine ⟨rfl, rfl, ?_⟩
    intro analyses reports
    rw [auditSource_outcome, auditSource_outcome]

/-- An explorer that has a contract without a name or an end. -/
def brokenContract : NextReplies :=
  let body :=
    "\x7b\"status\": \"1\", \"result\": [\x7b\"SourceCode\": \"contract \x7b\"\x7d]\x7d"
  ⟨.response 200 none body.toUTF8.toList, .failure "no node"⟩

/-- What is kept after one audit. -/
def oneReportKept : AuditState :=
  (plainAuditor.auditAddress ⟨0, 0⟩ oneContractEverywhere "0xAB" (emptyCaches 2)).state

/-- The audit of a second address. -/
def brokenAudit : Audited :=
  plainAuditor.auditAddress ⟨1, 1000⟩ brokenContract "0xcd" oneReportKept

/-- The message of an audit whose source could not be analysed. -/
def unanalysedMessage? : Except AuditError Report → Option Text
  | .error (.unanalysed message) => some message
  | _ => none

/-- A message for a failed analysis is that of the outcome. -/
lemma unanalysedMessage?_eq_some {outcome : Except AuditError Report} {message : Text}
    (h : unanalysedMessage? outcome = some message) : outcome = .error (.unanalysed message) := by
  unfold unanalysedMessage? at h
  split at h
  · cases h
    rfl
  · cases h

/-- The failed audit of a second address leaves the report on the first one as it is, and keeps that
the second one could not be analysed. -/
theorem failure_atomic_brokenAudit :
    oneReportKept.Filled ∧ oneReportKept.reports.cache.entries.length = 1 ∧
      brokenAudit.state.reports = oneReportKept.reports ∧
      ∃ message an record, brokenAudit.outcome = .error (.unanalysed message) ∧
        an.outcome = .failed message ∧
        oneReportKept.analyses.set 1 "0xcd" (some an) =
          .ok (brokenAudit.state.analyses, record) := by
  have hempty : (emptyCaches 2).Orderly 2 60 := ⟨.empty _ _ _, .empty _ _ _⟩
  have hfilled : oneReportKept.Filled :=
    (orderly_auditAddress hempty plainAuditor ⟨0, 0⟩ oneContractEverywhere "0xAB").toFilled
  have hrun : oneReportKept.reports.cache.entries.length = 1 ∧
      (unanalysedMessage? brokenAudit.outcome).isSome ∧
      brokenAudit.trace.queries.isEmpty = false := by decide +kernel
  obtain ⟨hlength, hmessage, hqueries⟩ := hrun
  obtain ⟨message, hmessage⟩ := Option.isSome_iff_exists.1 hmessage
  have houtcome := unanalysedMessage?_eq_some hmessage
  obtain ⟨hreports, -, hanalyses⟩ := (plainAuditor.failure_atomic ⟨1, 1000⟩ brokenContract "0xcd"
    oneReportKept hfilled).1 _ houtcome
  obtain ⟨an, record, -, han, hset⟩ := hanalyses message rfl (List.isEmpty_eq_false_iff.1 hqueries)
  exact ⟨hfilled, hlength, hreports, message, an, record, houtcome, han, hset⟩

end Auditor

end ContractAudit
