import ContractAudit.Audit.Session
import ContractAudit.Proofs.CacheEntries
import ContractAudit.Proofs.Queries

/-!
# Transparency of the caches

Two reports are the same up to `Report.essence` if they differ only in whether they were kept, when
they were made, the numbers of their issues and the letter case of the address. As long as the other
services answer by the lower-case address and do not change their minds, no audit can tell the kept
results of earlier audits from empty caches by anything else.

The invariant `AuditState.Faithful` carries the proof: whatever is kept for a key is what a first
audit of any address with that key would give. One call keeps it and has the outcome of a first audit
(`Auditor.perform_faithful`), hence so has every call of a run.
-/

namespace ContractAudit

/-! ## What stays the same from one audit to the next -/

/-- An issue without its number. -/
def Issue.essence (i : Issue) : Issue :=
  { i with id := 0 }

/-- An outcome whose issues have no numbers. -/
def Outcome.essence : Outcome → Outcome
  | .failed message => .failed message
  | .completed name issues => .completed name (issues.map Issue.essence)

/-- An analysis without its time, the numbers of its issues and the letter case of its address. -/
def Analysis.essence (an : Analysis) : Analysis :=
  ⟨an.address.lower, an.outcome.essence, 0⟩

/-- A score without its time, the numbers of its issues and the letter case of its address. -/
def Score.essence (s : Score) : Score :=
  { s with address := s.address.lower, issues := s.issues.map Issue.essence, timestamp := 0 }

/-- A report without what may differ between two audits of one contract. -/
def Report.essence (r : Report) : Report :=
  { r with score := r.score.essence, cached := false }

/-- Issues that differ by their numbers only have the same findings. -/
lemma map_finding_of_map_essence {issues issues' : List Issue}
    (h : issues.map Issue.essence = issues'.map Issue.essence) :
    issues.map Issue.finding = issues'.map Issue.finding := by
  have hfindings := congrArg (List.map Issue.finding) h
  rwa [List.map_map, List.map_map] at hfindings

/-- Numbers do not matter to the essence. -/
lemma numberFindings_map_essence (start : Nat) (findings : List Finding) :
    (numberFindings start findings).map Issue.essence = findings.map fun f => ⟨0, f⟩ := by
  induction findings generalizing start with
  | nil => rfl
  | cons f findings ih =>
    rw [List.map_cons, ← ih (start + 1)]
    rfl

/-- The breakdown of a score does not depend on the numbers of issues. -/
lemma breakdownOf_congr (w : Weights) {issues issues' : List Issue}
    (h : issues.map Issue.essence = issues'.map Issue.essence) :
    breakdownOf w issues = breakdownOf w issues' := by
  have hfindings := map_finding_of_map_essence h
  have hcategory := congrArg (List.map Finding.category) hfindings
  have hseverity := congrArg (List.map Finding.severity) hfindings
  simp only [List.map_map, Function.comp_def] at hcategory hseverity
  simp only [breakdownOf, hcategory, hseverity]

/-- Scores agree up to essence for addresses that agree up to letter case. -/
lemma scoreOf_essence_congr (w : Weights) {x y : Text} {issues issues' : List Issue}
    (hxy : x.lower = y.lower) (h : issues.map Issue.essence = issues'.map Issue.essence)
    (t t' : Int) : (scoreOf w x issues t).essence = (scoreOf w y issues' t').essence := by
  simp only [scoreOf, Score.essence, breakdownOf_congr w h, hxy, h]

/-- Reports agree up to essence if their scores do. -/
lemma reportOf_essence_congr {s s' : Score} (h : s.essence = s'.essence) (name : Json) :
    (reportOf s name).map Report.essence = (reportOf s' name).map Report.essence := by
  have haddress : s.address.lower = s'.address.lower := congrArg Score.address h
  have hoverall : s.overall = s'.overall :=
    (congrArg Score.overall h : s.essence.overall = s'.essence.overall)
  simp only [reportOf, unicodeProblem?_congr "contract_address" haddress, hoverall]
  split
  · simp only [Except.map, Report.essence, h]
  · rfl

/-- Changing the error and changing the result do not interfere. -/
lemma map_mapError {ε ε' α β : Type} (x : Except ε α) (g : ε → ε') (f : α → β) :
    (x.mapError g).map f = (x.map f).mapError g := by
  cases x with
  | error e => rfl
  | ok v => rfl

/-- Analyses with the same essence have the same report. -/
lemma Auditor.report_essence_congr (a : Auditor) {an an' : Analysis} (h : an.essence = an'.essence)
    (m m' : Moment) :
    (a.report m an).1.map Report.essence = (a.report m' an').1.map Report.essence := by
  have haddress : an.address.lower = an'.address.lower := congrArg Analysis.address h
  have houtcome : an.outcome.essence = an'.outcome.essence := congrArg Analysis.outcome h
  unfold report
  cases ho : an.outcome with
  | failed message =>
    cases ho' : an'.outcome with
    | failed message' =>
      simp only [ho, ho', Outcome.essence, Outcome.failed.injEq] at houtcome
      simp only [houtcome]
    | completed name' issues' => simp [ho, ho', Outcome.essence] at houtcome
  | completed name issues =>
    cases ho' : an'.outcome with
    | failed message' => simp [ho, ho', Outcome.essence] at houtcome
    | completed name' issues' =>
      simp only [ho, ho', Outcome.essence, Outcome.completed.injEq] at houtcome
      obtain ⟨rfl, hissues⟩ := houtcome
      have hreport := reportOf_essence_congr
        (scoreOf_essence_congr a.weights haddress hissues m.timestamp m'.timestamp) name
      simp only
      rw [map_mapError, map_mapError, hreport]

/-! ## Analyses -/

/-- The verdict on a source does not depend on the address. -/
lemma verdictOf_map_fst (x y : Text) (parsed : Except ParseError Node) (ds : List Detector) :
    (verdictOf x parsed ds).map Prod.fst = (verdictOf y parsed ds).map Prod.fst := by
  unfold verdictOf
  split
  · unfold verdictOfTree
    split
    · rfl
    · rfl
  · rfl
  · rfl

/-- An analysis is the verdict up to its essence. -/
lemma Verdict.toAnalysis_essence_congr (v : Verdict) {x y : Text} (hxy : x.lower = y.lower)
    (t t' : Int) (n n' : Nat) : (v.toAnalysis x t n).essence = (v.toAnalysis y t' n').essence := by
  cases v with
  | failed e => simp only [toAnalysis, Analysis.essence, Outcome.essence, hxy]
  | completed name findings =>
    simp only [toAnalysis, Analysis.essence, Outcome.essence, hxy, numberFindings_map_essence]

/-- The name that the explorer gives is taken over up to essence. -/
lemma Analysis.withExplorerName_essence (name : Json) (an : Analysis) :
    (an.withExplorerName name).essence = an.essence.withExplorerName name := by
  rcases an with ⟨address, outcome, timestamp⟩
  cases outcome with
  | failed message => rfl
  | completed own issues =>
    simp only [withExplorerName, essence, Outcome.essence]
    split
    · rfl
    · rfl

/-- The analysis of a source, without what is logged. -/
def Auditor.analysisOf (a : Auditor) (m : Moment) (address source : Text) (firstId : Nat) :
    Except Fault Analysis :=
  (a.analyse m address source firstId).map Prod.fst

/-- The analysis of a source is the same up to essence at every moment. -/
lemma Auditor.analysisOf_essence_congr (a : Auditor) {x y : Text} (hxy : x.lower = y.lower)
    (source : Text) (m m' : Moment) (n n' : Nat) :
    (a.analysisOf m x source n).map Analysis.essence =
      (a.analysisOf m' y source n').map Analysis.essence := by
  have hverdict := verdictOf_map_fst x y (a.parse source) a.detectors
  unfold analysisOf analyse
  cases hx : verdictOf x (a.parse source) a.detectors with
  | error f =>
    cases hy : verdictOf y (a.parse source) a.detectors with
    | error f' =>
      simp only [hx, hy, Except.map, Except.error.injEq] at hverdict
      rw [hverdict]
    | ok found' => simp [hx, hy, Except.map] at hverdict
  | ok found =>
    cases hy : verdictOf y (a.parse source) a.detectors with
    | error f' => simp [hx, hy, Except.map] at hverdict
    | ok found' =>
      simp only [hx, hy, Except.map, Except.ok.injEq] at hverdict
      simp only [Except.map, hverdict, Except.ok.injEq]
      exact found'.1.toAnalysis_essence_congr hxy _ _ n n'

/-! ## Lookups -/

/-- The entries of an answer are the same for every address. -/
lemma entriesOf_eq_ok {x : Text} {members : List (Text × Json)} {found : Json × List Json}
    (h : entriesOf x members = .ok found) (y : Text) : entriesOf y members = .ok found := by
  simp only [entriesOf] at h ⊢
  split at h
  · split at h
    · rename_i hone
      rw [if_pos hone]
      exact h
    · cases h
  · cases h
  · cases h

/-- Two steps succeed if both do. -/
lemma exists_of_bind_eq_ok {ε α β : Type} {x : Except ε α} {f : α → Except ε β} {v : β}
    (h : x >>= f = .ok v) : ∃ u, x = .ok u ∧ f u = .ok v := by
  cases x with
  | error e => cases h
  | ok u => exact ⟨u, rfl, h⟩

/-- The source in an answer is the same for every address. -/
lemma sourceOfAnswer_eq_ok {limit : Nat} {x : Text} {answer : Json} {c : ContractSource}
    (h : sourceOfAnswer limit x answer = .ok c) (y : Text) :
    sourceOfAnswer limit y answer = .ok { c with address := y } := by
  unfold sourceOfAnswer at h ⊢
  obtain ⟨members, hmembers, h⟩ := exists_of_bind_eq_ok h
  obtain ⟨found, hfound, h⟩ := exists_of_bind_eq_ok h
  obtain ⟨fields, hfields, h⟩ := exists_of_bind_eq_ok h
  obtain ⟨source, hsource, h⟩ := exists_of_bind_eq_ok h
  rw [hmembers]
  simp only [bind, Except.bind, entriesOf_eq_ok hfound y, hfields, hsource]
  split at h
  · cases h
  · rename_i hblank
    rw [if_neg hblank]
    cases h
    rfl

/-- A verified source is one that the answer has which the explorer gives when it is asked. -/
lemma verifiedSource_eq_ok_iff {e : Endpoints} {x : Text} {reply : Reply} {c : ContractSource} :
    (verifiedSource e x reply).1 = .ok c ↔
      ∃ answer, (sourceQuery e x).ask e.nesting.explorer reply = .ok answer ∧
        sourceOfAnswer e.nesting.submission x answer = .ok c := by
  unfold verifiedSource
  rcases hread : (sourceQuery e x).ask e.nesting.explorer reply with failure | answer
  · cases failure with
    | failed message => simp
    | tooDeep => simp
  · simp only [Except.ok.injEq, exists_eq_left']
    split
    · rename_i err herr
      simp [herr]
    · rename_i source hsource
      simp [hsource]

/-- A source is found exactly if the explorer has it. -/
lemma deployedSource_eq_ok_iff {e : Endpoints} {next : NextReplies} {x : Text}
    {c : ContractSource} :
    (deployedSource e next x).1 = .ok c ↔ (verifiedSource e x next.explorer).1 = .ok c := by
  unfold deployedSource
  split
  · rename_i hverified
    rw [hverified]
  · rename_i hverified
    rw [hverified]
    split
    · simp
    · simp

/-- The deployed source, once found, is the same in every letter case. -/
lemma deployedSource_eq_ok {e : Endpoints} {next : NextReplies} {x y : Text}
    (hxy : x.lower = y.lower) {c : ContractSource} (h : (deployedSource e next x).1 = .ok c) :
    (deployedSource e next y).1 = .ok { c with address := y } := by
  rw [deployedSource_eq_ok_iff, verifiedSource_eq_ok_iff] at h ⊢
  obtain ⟨answer, hask, hsource⟩ := h
  rw [Query.ask_eq_ok_iff, sendable_sourceQuery_congr hxy] at hask
  exact ⟨answer, Query.ask_eq_ok_iff.2 hask, sourceOfAnswer_eq_ok hsource y⟩

namespace Auditor

variable (a : Auditor)

/-- The analysis of a deployed source, without what is asked and logged. -/
def deployedAnalysis (m : Moment) (next : NextReplies) (address : Text) (firstId : Nat) :
    Except AuditError Analysis :=
  (a.analyseDeployed m next address firstId).1

/-- Analysing what is deployed is a lookup, an analysis and a choice of name. -/
lemma deployedAnalysis_eq (m : Moment) (next : NextReplies) (x : Text) (n : Nat) :
    a.deployedAnalysis m next x n =
      match (deployedSource a.endpoints next x).1 with
      | .error e => .error (.lookup e)
      | .ok c =>
        ((a.analysisOf m x c.source n).map (Analysis.withExplorerName c.contractName)).mapError
          .fault := by
  unfold deployedAnalysis analyseDeployed analysisOf
  rcases deployedSource a.endpoints next x with ⟨found, trace⟩
  cases found with
  | error e => rfl
  | ok c =>
    simp only
    cases a.analyse m x c.source n with
    | error f => rfl
    | ok result => rfl

/-- The analysis under the explorer's name is the same up to essence at every moment. -/
lemma named_essence_congr {x y : Text} (hxy : x.lower = y.lower) (source : Text) (name : Json)
    (m m' : Moment) (n n' : Nat) :
    ((a.analysisOf m x source n).map (Analysis.withExplorerName name)).map Analysis.essence =
      ((a.analysisOf m' y source n').map (Analysis.withExplorerName name)).map
        Analysis.essence := by
  have hname : ∀ found : Except Fault Analysis,
      (found.map (Analysis.withExplorerName name)).map Analysis.essence =
        (found.map Analysis.essence).map (Analysis.withExplorerName name) := by
    intro found
    cases found with
    | error f => rfl
    | ok an => exact congrArg Except.ok (an.withExplorerName_essence name)
  rw [hname, hname, a.analysisOf_essence_congr hxy source m m' n n']

/-- What is deployed has the same analysis up to essence at every moment. -/
lemma deployedAnalysis_essence_congr (next : NextReplies) (x : Text) (m m' : Moment) (n n' : Nat) :
    (a.deployedAnalysis m next x n).map Analysis.essence =
      (a.deployedAnalysis m' next x n').map Analysis.essence := by
  rw [deployedAnalysis_eq, deployedAnalysis_eq]
  cases (deployedSource a.endpoints next x).1 with
  | error e => rfl
  | ok c =>
    simp only
    rw [map_mapError, map_mapError, a.named_essence_congr rfl c.source c.contractName m m' n n']

/-- What could be analysed can be in every letter case, with the same analysis up to essence. -/
lemma deployedAnalysis_eq_ok {next : NextReplies} {x y : Text} (hxy : x.lower = y.lower)
    {m : Moment} {n : Nat} {an : Analysis} (h : a.deployedAnalysis m next x n = .ok an)
    (m' : Moment) (n' : Nat) :
    (a.deployedAnalysis m' next y n').map Analysis.essence = .ok an.essence := by
  have hessence : (a.deployedAnalysis m next x n).map Analysis.essence = .ok an.essence := by
    rw [h]
    rfl
  -- only a success is the same for all addresses: most errors name the address
  rw [deployedAnalysis_eq] at hessence ⊢
  cases hsource : (deployedSource a.endpoints next x).1 with
  | error e =>
    rw [hsource] at hessence
    cases hessence
  | ok c =>
    rw [hsource] at hessence
    rw [deployedSource_eq_ok hxy hsource]
    simp only at hessence ⊢
    rw [map_mapError] at hessence ⊢
    rw [← a.named_essence_congr hxy c.source c.contractName m m' n n', hessence]

/-! ## First audits -/

/-- What a first audit of an address takes for its analysis, up to essence. -/
def firstAnalysis (next : NextReplies) (address : Text) : Except AuditError Analysis :=
  (a.deployedAnalysis ⟨0, 0⟩ next address 0).map Analysis.essence

/-- The report on an analysis, if there is one. -/
def reportOn (m : Moment) (found : Except AuditError Analysis) : Except AuditError Report :=
  found >>= fun an => (a.report m an).1

/-- What a first audit of an address leads to, up to essence. -/
def firstReport (next : NextReplies) (address : Text) : Except AuditError Report :=
  (a.reportOn ⟨0, 0⟩ (a.deployedAnalysis ⟨0, 0⟩ next address 0)).map Report.essence

/-- Analyses with the same essence, or the same reason that there is none, are reported alike. -/
lemma reportOn_essence_congr {found found' : Except AuditError Analysis}
    (h : found.map Analysis.essence = found'.map Analysis.essence) (m m' : Moment) :
    (a.reportOn m found).map Report.essence = (a.reportOn m' found').map Report.essence := by
  cases found with
  | error e =>
    cases found' with
    | error e' =>
      cases h
      rfl
    | ok an' => cases h
  | ok an =>
    cases found' with
    | error e' => cases h
    | ok an' => exact a.report_essence_congr (Except.ok.inj h) m m'

variable (replies : Text → NextReplies)

/-- What is kept for a key is the analysis of a first audit of every address with that key. -/
def KeepsAnalysis (key : Text) (kept : Option Analysis) : Prop :=
  ∀ an ∈ kept, ∀ x : Text, x.lower = key → a.firstAnalysis (replies key) x = .ok an.essence

/-- What is kept for a key is the report of a first audit of every address with that key. -/
def KeepsReport (key : Text) (kept : Option Report) : Prop :=
  ∀ r ∈ kept, ∀ x : Text, x.lower = key → a.firstReport (replies key) x = .ok r.essence

end Auditor

/-- Both caches keep what first audits give, and have room for more. -/
structure AuditState.Faithful (a : Auditor) (replies : Text → NextReplies) (s : AuditState) :
    Prop where
  analyses : s.analyses.Sound (a.KeepsAnalysis replies)
  reports : s.reports.Sound (a.KeepsReport replies)

/-- An audit with the outcome of a first one, which leaves what first audits give. -/
structure Audited.Faithful (a : Auditor) (replies : Text → NextReplies)
    (first : Except AuditError Report) (done : Audited) : Prop where
  outcome : done.outcome.map Report.essence = first
  state : done.state.Faithful a replies

namespace AuditState.Faithful

variable {a : Auditor} {replies : Text → NextReplies} {s : AuditState}

/-- A report on the analysis of a first audit is the report of one. -/
lemma reportAndKeep (h : s.Faithful a replies) (m : Moment) {x : Text} {an : Analysis}
    (han : a.KeepsAnalysis replies x.lower (some an)) :
    (a.reportAndKeep m x s an).Faithful a replies (a.firstReport (replies x.lower) x) := by
  have hfirst : ∀ y : Text, y.lower = x.lower →
      a.firstReport (replies x.lower) y = (a.report m an).1.map Report.essence := by
    intro y hy
    have hessence : (a.deployedAnalysis ⟨0, 0⟩ (replies x.lower) y 0).map Analysis.essence =
        (Except.ok an).map Analysis.essence := han an rfl y hy
    exact a.reportOn_essence_congr hessence ⟨0, 0⟩ m
  rw [hfirst x rfl]
  unfold Auditor.reportAndKeep
  rcases hreport : a.report m an with ⟨outcome, log⟩
  cases outcome with
  | error e => exact ⟨rfl, h⟩
  | ok r =>
    -- the report is kept for the key, so it has to be right for every spelling of the address
    have hr : a.KeepsReport replies x.lower (some r) := by
      rintro r' ⟨⟩ y hy
      rw [hfirst y hy, hreport]
      rfl
    obtain ⟨reports, record, hset, hkept⟩ := h.reports.exists_set_eq_ok m.clock hr
    simp only [hset]
    exact ⟨rfl, h.analyses, hkept⟩

/-- An audit that fetches the source is a first audit. -/
lemma fetchAndReport (h : s.Faithful a replies) (m : Moment) (x : Text) :
    (a.fetchAndReport m (replies x.lower) x s).Faithful a replies
      (a.firstReport (replies x.lower) x) := by
  unfold Auditor.fetchAndReport
  rcases hfetch : a.analyseDeployed m (replies x.lower) x s.nextIssue with ⟨outcome, trace⟩
  have hdeployed : a.deployedAnalysis m (replies x.lower) x s.nextIssue = outcome := by
    rw [Auditor.deployedAnalysis, hfetch]
  cases outcome with
  | error e =>
    -- nothing is kept, and the error is that of a first audit of this very address
    have hfirst := a.deployedAnalysis_essence_congr (replies x.lower) x m ⟨0, 0⟩ s.nextIssue 0
    rw [hdeployed] at hfirst
    exact ⟨a.reportOn_essence_congr hfirst m ⟨0, 0⟩, h⟩
  | ok an =>
    have han : a.KeepsAnalysis replies x.lower (some an) := by
      rintro an' ⟨⟩ y hy
      exact a.deployedAnalysis_eq_ok hy.symm hdeployed ⟨0, 0⟩ 0
    obtain ⟨analyses, record, hset, hkept⟩ := h.analyses.exists_set_eq_ok m.clock han
    have hnext : AuditState.Faithful a replies
        ⟨analyses, s.reports, s.nextIssue + an.issueCount⟩ := ⟨hkept, h.reports⟩
    simp only [hset]
    obtain ⟨houtcome, hstate⟩ := hnext.reportAndKeep m han
    exact ⟨houtcome, hstate⟩

/-- Without a kept report, an audit has the outcome of a first one. -/
lemma auditUnreported (h : s.Faithful a replies) (m : Moment) (x : Text) :
    (a.auditUnreported m (replies x.lower) x s).Faithful a replies
      (a.firstReport (replies x.lower) x) := by
  unfold Auditor.auditUnreported
  have hanalyses := h.analyses.get m.clock x
  rcases hget : s.analyses.get m.clock x with ⟨kept, analyses, record⟩
  rw [hget] at hanalyses
  have hread : ({ s with analyses := analyses } : AuditState).Faithful a replies :=
    ⟨hanalyses, h.reports⟩
  cases kept with
  | none =>
    obtain ⟨houtcome, hstate⟩ := hread.fetchAndReport m x
    exact ⟨houtcome, hstate⟩
  | some an =>
    -- the analysis may have been made under another spelling, which its essence does not show
    have han := h.analyses.of_get (congrArg Prod.fst hget)
    obtain ⟨houtcome, hstate⟩ := hread.reportAndKeep m han
    exact ⟨houtcome, hstate⟩

/-- An audit of an address has the outcome of a first one. -/
lemma auditAddress (h : s.Faithful a replies) (m : Moment) (x : Text) :
    (a.auditAddress m (replies x.lower) x s).Faithful a replies
      (a.firstReport (replies x.lower) x) := by
  unfold Auditor.auditAddress
  have hreports := h.reports.get m.clock x
  rcases hget : s.reports.get m.clock x with ⟨kept, reports, record⟩
  rw [hget] at hreports
  have hread : ({ s with reports := reports } : AuditState).Faithful a replies :=
    ⟨h.analyses, hreports⟩
  cases kept with
  | none =>
    obtain ⟨houtcome, hstate⟩ := hread.auditUnreported m x
    exact ⟨houtcome, hstate⟩
  | some r =>
    have hfirst := h.reports.of_get (congrArg Prod.fst hget) r rfl x rfl
    exact ⟨hfirst.symm, hread⟩

end AuditState.Faithful

/-! ## Runs of calls -/

/-- A call of the audit service. -/
inductive AuditCall where
  /-- Audit what is deployed at an address. -/
  | address (address : Text)
  /-- Audit a source that is said to be that of an address. -/
  | source (source address : Text)

namespace Auditor

variable (a : Auditor) (replies : Text → NextReplies)

/-- Makes a call while the other services answer by the lower-case address. -/
def perform (m : Moment) (s : AuditState) : AuditCall → Audited
  | .address x => a.auditAddress m (replies x.lower) x s
  | .source source x => a.auditSource m source x s

/-- The outcomes of calls that are made one after the other. -/
def outcomes (s : AuditState) : List (Moment × AuditCall) → List (Except AuditError Report)
  | [] => []
  | (m, call) :: rest =>
    (a.perform replies m s call).outcome :: outcomes (a.perform replies m s call).state rest

/-- What a first call leads to, up to essence. -/
def firstOutcome : AuditCall → Except AuditError Report
  | .address x => a.firstReport (replies x.lower) x
  | .source source x =>
    (a.reportOn ⟨0, 0⟩ ((a.analysisOf ⟨0, 0⟩ x source 0).mapError .fault)).map Report.essence

/-- An audit of a source reports on its analysis. -/
lemma auditSource_outcome (m : Moment) (source x : Text) (s : AuditState) :
    (a.auditSource m source x s).outcome =
      a.reportOn m ((a.analysisOf m x source s.nextIssue).mapError .fault) := by
  unfold auditSource analysisOf
  cases a.analyse m x source s.nextIssue with
  | error f => rfl
  | ok result => rfl

/-- An audit of a source keeps nothing. -/
lemma auditSource_state (m : Moment) (source x : Text) (s : AuditState) :
    ∃ n, (a.auditSource m source x s).state = { s with nextIssue := n } := by
  unfold auditSource
  cases a.analyse m x source s.nextIssue with
  | error f => exact ⟨s.nextIssue, rfl⟩
  | ok result => exact ⟨_, rfl⟩

/-- One call on faithful caches has the outcome of a first call and leaves them faithful. -/
lemma perform_faithful {s : AuditState} (h : s.Faithful a replies) (m : Moment)
    (call : AuditCall) :
    (a.perform replies m s call).Faithful a replies (a.firstOutcome replies call) := by
  cases call with
  | address x => exact h.auditAddress m x
  | source source x =>
    constructor
    · have hessence := a.analysisOf_essence_congr (y := x) rfl source m ⟨0, 0⟩ s.nextIssue 0
      rw [perform, auditSource_outcome]
      apply a.reportOn_essence_congr
      rw [map_mapError, map_mapError, hessence]
    · obtain ⟨n, hstate⟩ := a.auditSource_state m source x s
      rw [perform, hstate]
      exact ⟨h.analyses, h.reports⟩

/-- Every call of a run on faithful caches has the outcome of a first call. -/
lemma outcomes_map_essence (calls : List (Moment × AuditCall)) {s : AuditState}
    (h : s.Faithful a replies) :
    (a.outcomes replies s calls).map (Except.map Report.essence) =
      calls.map fun call => a.firstOutcome replies call.2 := by
  induction calls generalizing s with
  | nil => rfl
  | cons call calls ih =>
    obtain ⟨houtcome, hstate⟩ := a.perform_faithful replies h call.1 call.2
    rw [outcomes, List.map_cons, List.map_cons, houtcome, ih hstate]

end Auditor

/-- Nothing is kept, and there is room to keep something. -/
structure AuditState.Fresh (s : AuditState) : Prop where
  noAnalyses : s.analyses.cache.entries = []
  noReports : s.reports.cache.entries = []
  roomForAnalyses : 0 < s.analyses.cache.capacity
  roomForReports : 0 < s.reports.cache.capacity

/-- Empty caches keep nothing wrong. -/
lemma AuditState.Fresh.faithful {s : AuditState} (h : s.Fresh) (a : Auditor)
    (replies : Text → NextReplies) : s.Faithful a replies where
  analyses := ⟨h.roomForAnalyses, fun e he => by simp [h.noAnalyses] at he⟩
  reports := ⟨h.roomForReports, fun e he => by simp [h.noReports] at he⟩

/-- Whatever was audited before and whenever, the outcome of a call is up to essence the outcome
of the same call on empty caches. -/
theorem Auditor.outcomes_eq_fresh (a : Auditor) (replies : Text → NextReplies) (s s₀ : AuditState)
    (hs : s.Fresh) (hs₀ : s₀.Fresh) (calls : List (Moment × AuditCall)) :
    (a.outcomes replies s calls).map (Except.map Report.essence) =
      calls.map fun call => (a.perform replies call.1 s₀ call.2).outcome.map Report.essence := by
  rw [a.outcomes_map_essence replies calls (hs.faithful a replies)]
  apply List.map_congr_left
  intro call _
  exact (a.perform_faithful replies (hs₀.faithful a replies) call.1 call.2).outcome.symm

/-- The source of a contract without members. -/
def emptyContract : Text :=
  Text.ofString "contract A \x7b\x7d"

/-- The concrete tree of the contract without members. -/
def emptyContractTree : ParseTree :=
  .mk ⟨"source_file", 0, 13, true, false, false, none⟩
    [.mk ⟨"contract_declaration", 0, 13, true, false, false, none⟩
      [.mk ⟨"contract", 0, 8, false, false, false, none⟩ [],
       .mk ⟨"identifier", 9, 10, true, false, false, some "name"⟩ [],
       .mk ⟨"contract_body", 11, 13, true, false, false, some "body"⟩
        [.mk ⟨"\x7b", 11, 12, false, false, false, none⟩ [],
         .mk ⟨"\x7d", 12, 13, false, false, false, none⟩ []]]]

/-- The concrete tree of a contract without a name or an end. -/
def openContractTree : ParseTree :=
  .mk ⟨"source_file", 0, 10, true, false, true, none⟩
    [.mk ⟨"ERROR", 0, 10, true, false, true, none⟩
      [.mk ⟨"contract", 0, 8, false, false, false, none⟩ [],
       .mk ⟨"\x7b", 9, 10, false, false, false, none⟩ []]]

/-- An auditor with the default detectors that knows the contract without members, and takes every
other source for a broken one. -/
def plainAuditor : Auditor :=
  ⟨⟨"explorer", none, "node", ⟨3, 3, 3⟩⟩, Weights.standard, defaultDetectors, fun source =>
    parseSource source (if source = emptyContract then emptyContractTree else openContractTree)⟩

/-- An explorer that knows one contract at every address, and a node that is not reached. -/
def oneContractEverywhere : NextReplies :=
  ⟨.response 200 none ("\x7b\"status\": \"1\", \"result\": [\x7b\"SourceCode\": \"contract A \x7b\x7d\","
      ++ " \"ContractName\": \"A\"\x7d]\x7d").toUTF8.toList,
    .failure "no node"⟩

/-- Empty caches for so many results. -/
def emptyCaches (capacity : Nat) : AuditState :=
  ⟨⟨"analysis", .empty capacity 60⟩, ⟨"scores", .empty capacity 60⟩, 1⟩

/-- One address in two letter cases, another address that takes its place in a cache for one, and
the first again when all that was kept is dead. -/
def fourCalls : List (Moment × AuditCall) :=
  [(⟨0, 0⟩, .address "0xAB"), (⟨1, 1000⟩, .address "0xab"), (⟨2, 2000⟩, .address "0xcd"),
   (⟨100, 100000⟩, .address "0xAb")]

/-- The four calls on caches for one result have the outcomes of calls on empty caches. All of them
give a report, and one of the reports was kept. -/
theorem outcomes_eq_fresh_fourCalls :
    (emptyCaches 1).Fresh ∧ (emptyCaches 2).Fresh ∧
      ((plainAuditor.outcomes (fun _ => oneContractEverywhere) (emptyCaches 1) fourCalls).map
        fun outcome => outcome.toOption.map Report.cached) =
          [some false, some true, some false, some false] ∧
      (plainAuditor.outcomes (fun _ => oneContractEverywhere) (emptyCaches 1) fourCalls).map
          (Except.map Report.essence) =
        fourCalls.map fun call =>
          (plainAuditor.perform (fun _ => oneContractEverywhere) call.1 (emptyCaches 2)
            call.2).outcome.map Report.essence := by
  have hone : (emptyCaches 1).Fresh := ⟨rfl, rfl, by decide, by decide⟩
  have htwo : (emptyCaches 2).Fresh := ⟨rfl, rfl, by decide, by decide⟩
  exact ⟨hone, htwo, by decide +kernel, plainAuditor.outcomes_eq_fresh _ _ _ hone htwo fourCalls⟩

end ContractAudit
