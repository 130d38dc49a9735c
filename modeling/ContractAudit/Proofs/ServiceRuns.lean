import ContractAudit.Proofs.AuditPaths

/-!
# Runs of a service

A run is a list of calls, each with its moment and with what the other services would answer it, so
that these may change their minds at every call. `Auditor.log` says what came of each call, and
`AnsweredCall.Analyses` which of them fetched a source and what they made of it.
-/

namespace ContractAudit

/-- A call, when it is made, and what the other services would answer it. -/
structure TimedCall where
  moment : Moment
  next : NextReplies
  call : AuditCall

/-- A call that was made, what was kept before it, and what came of it. -/
structure AnsweredCall extends TimedCall where
  before : AuditState
  done : Audited

namespace Auditor

/-- A call with what it leads to. -/
def answer (a : Auditor) (s : AuditState) (c : TimedCall) : AnsweredCall :=
  ⟨c, s, a.perform (fun _ => c.next) c.moment s c.call⟩

/-- What is kept after calls that are made one after the other. -/
def stateAfter (a : Auditor) (s : AuditState) (calls : List TimedCall) : AuditState :=
  calls.foldl (fun s c => (a.answer s c).done.state) s

/-- The calls, made one after the other. -/
def log (a : Auditor) (s : AuditState) : List TimedCall → List AnsweredCall
  | [] => []
  | c :: rest => a.answer s c :: a.log (a.answer s c).done.state rest

/-- The state after one more call is the one that the call leaves. -/
lemma stateAfter_concat (a : Auditor) (s : AuditState) (calls : List TimedCall) (c : TimedCall) :
    a.stateAfter s (calls ++ [c]) = (a.answer (a.stateAfter s calls) c).done.state :=
  List.foldl_concat _ _ _ _

/-- One more call is logged last. -/
lemma log_concat (a : Auditor) (s : AuditState) (calls : List TimedCall) (c : TimedCall) :
    a.log s (calls ++ [c]) = a.log s calls ++ [a.answer (a.stateAfter s calls) c] := by
  induction calls generalizing s with
  | nil => rfl
  | cons first calls ih =>
    rw [List.cons_append, log, log, ih]
    rfl

/-- A call of the log was made after those before it. -/
lemma exists_of_log_eq {a : Auditor} {s : AuditState} {calls : List TimedCall}
    {past later : List AnsweredCall} {v : AnsweredCall} (h : a.log s calls = past ++ v :: later) :
    ∃ earlier c, past = a.log s earlier ∧ v = a.answer (a.stateAfter s earlier) c := by
  induction calls generalizing s past with
  | nil =>
    have hlength := congrArg List.length h
    simp [log] at hlength
  | cons first calls ih =>
    cases past with
    | nil =>
      obtain ⟨rfl, -⟩ := List.cons.inj h
      exact ⟨[], first, rfl, rfl⟩
    | cons w past =>
      obtain ⟨rfl, hrest⟩ := List.cons.inj h
      obtain ⟨earlier, c, rfl, rfl⟩ := ih hrest
      exact ⟨first :: earlier, c, rfl, rfl⟩

/-- Only calls that were made are logged. -/
lemma toTimedCall_mem_of_mem_log {a : Auditor} {s : AuditState} {calls : List TimedCall}
    {v : AnsweredCall} (hv : v ∈ a.log s calls) : v.toTimedCall ∈ calls := by
  induction calls generalizing s with
  | nil => cases hv
  | cons first calls ih =>
    cases hv with
    | head => exact List.mem_cons_self
    | tail _ hv => exact List.mem_cons_of_mem _ (ih hv)

/-- A call leaves the caches in order. -/
lemma orderly_answer {s : AuditState} {capacity : Nat} {ttl : Rat} (hs : s.Orderly capacity ttl)
    (a : Auditor) (c : TimedCall) : (a.answer s c).done.state.Orderly capacity ttl := by
  obtain ⟨m, next, call⟩ := c
  cases call with
  | address x => exact orderly_auditAddress hs a m next x
  | source source x => exact orderly_auditSource hs a m source x

/-- The caches are in order after any calls. -/
lemma orderly_stateAfter (a : Auditor) (capacity : Nat) (ttl : Rat) (calls : List TimedCall) :
    (a.stateAfter (.empty capacity ttl) calls).Orderly capacity ttl := by
  induction calls using List.reverseRecOn with
  | nil => exact AuditState.orderly_empty capacity ttl
  | append_singleton calls c ih =>
    rw [stateAfter_concat]
    exact orderly_answer ih a c

end Auditor

/-! ## What a call did -/

namespace AnsweredCall

/-- The call audits an address with a key. -/
def Audits (key : Text) (v : AnsweredCall) : Prop :=
  ∃ x, v.call = .address x ∧ x.lower = key

/-- The call asks the explorer for the source of an address with a key. -/
def LooksUp (a : Auditor) (key : Text) (v : AnsweredCall) : Prop :=
  ∃ x, v.call = .address x ∧ x.lower = key ∧ sourceQuery a.endpoints x ∈ v.done.trace.queries

/-- The call fetches the source of an address with a key and comes to an analysis of it. -/
def Analyses (a : Auditor) (key : Text) (an : Analysis) (v : AnsweredCall) : Prop :=
  ∃ x contract plain log, v.call = .address x ∧ x.lower = key ∧
    sourceQuery a.endpoints x ∈ v.done.trace.queries ∧
    (verifiedSource a.endpoints x v.next.explorer).1 = .ok contract ∧
    a.analyse v.moment x contract.source v.before.nextIssue = .ok (plain, log) ∧
    an = plain.withExplorerName contract.contractName

end AnsweredCall

namespace Auditor

variable {a : Auditor} {m : Moment} {next : NextReplies} {x : Text} {s s' : AuditState}
  {an : Analysis} {queries : List Query}

/-- An analysis of what is deployed is one of the source that the explorer has. -/
lemma analyseDeployed_eq_ok_iff {n : Nat} :
    (a.analyseDeployed m next x n).1 = .ok an ↔
      ∃ contract plain log, (verifiedSource a.endpoints x next.explorer).1 = .ok contract ∧
        a.analyse m x contract.source n = .ok (plain, log) ∧
        an = plain.withExplorerName contract.contractName := by
  simp only [← deployedSource_eq_ok_iff]
  unfold analyseDeployed
  split
  · rename_i hsource
    simp [hsource]
  · rename_i contract trace hsource
    split
    · rename_i hanalyse
      simp [hsource, hanalyse]
    · rename_i plain log hanalyse
      simp [hsource, hanalyse, eq_comm]

/-- Whoever analyses what is deployed asks the explorer first, if that can be asked. -/
lemma sourceQuery_mem_queries {n : Nat} {found : Except AuditError Analysis} {trace : Trace}
    (hsend : (sourceQuery a.endpoints x).Sendable)
    (hfetch : a.analyseDeployed m next x n = (found, trace)) :
    sourceQuery a.endpoints x ∈ trace.queries := by
  have hsource : sourceQuery a.endpoints x ∈ (deployedSource a.endpoints next x).2.queries := by
    unfold deployedSource
    rw [Query.sent_of_sendable hsend]
    split
    · simp
    · split
      · simp
      · simp
  unfold analyseDeployed at hfetch
  split at hfetch
  · rename_i hdeployed
    rw [hdeployed] at hsource
    cases hfetch
    exact hsource
  · rename_i hdeployed
    rw [hdeployed] at hsource
    split at hfetch
    · cases hfetch
      exact hsource
    · cases hfetch
      exact List.mem_append_left _ hsource

/-- Whoever comes to an analysis of what is deployed has asked the explorer. -/
lemma sourceQuery_mem_of_ok {n : Nat} {trace : Trace}
    (hfetch : a.analyseDeployed m next x n = (.ok an, trace)) :
    sourceQuery a.endpoints x ∈ trace.queries := by
  obtain ⟨contract, plain, log, hsource, -⟩ :=
    analyseDeployed_eq_ok_iff.1 (congrArg Prod.fst hfetch)
  obtain ⟨answer, hask, -⟩ := verifiedSource_eq_ok_iff.1 hsource
  exact sourceQuery_mem_queries (Query.ask_eq_ok_iff.1 hask).1 hfetch

/-- The analysis of an audit was kept or is made of a source that the audit asks for. -/
lemma Obtains.kept_or_fetched (h : a.Obtains m next x s an s' queries) :
    (s.analyses.get m.clock x).1 = some an ∨
      ((a.analyseDeployed m next x s.nextIssue).1 = .ok an ∧
        sourceQuery a.endpoints x ∈ queries) := by
  cases h with
  | kept hget => exact .inl (congrArg Prod.fst hget)
  | fetched hmiss hfetch hset =>
    exact .inr ⟨congrArg Prod.fst hfetch, sourceQuery_mem_of_ok hfetch⟩

/-- A get changes nothing that is kept. -/
lemma kept_of_get {α : Type} {c c' : ResultCache α} {now : Rat} {found : Option α}
    {record : LogRecord} (hget : c.get now x = (found, c', record)) :
    c'.cache.kept = c.cache.kept := by
  have hkept : (c.get now x).2.1.cache.kept = c.cache.kept := c.cache.kept_get now _
  rw [hget] at hkept
  exact hkept

/-- Only an analysis that was just fetched is kept in addition. -/
lemma Obtains.mem_analyses (h : a.Obtains m next x s an s' queries) {k : Kept Analysis}
    (hk : k ∈ s'.analyses.cache.kept) :
    k ∈ s.analyses.cache.kept ∨
      (k = ⟨x.lower, some an, m.clock⟩ ∧ (a.analyseDeployed m next x s.nextIssue).1 = .ok an ∧
        sourceQuery a.endpoints x ∈ queries) := by
  cases h with
  | kept hget => exact .inl (kept_of_get hget ▸ hk)
  | fetched hmiss hfetch hset =>
    have hcache := ResultCache.cache_of_set_eq_ok hset
    rcases Cache.mem_or_eq_of_mem_kept_set hcache hk with ⟨hk, -⟩ | hk
    · exact .inl hk
    · exact .inr ⟨hk, congrArg Prod.fst hfetch, sourceQuery_mem_of_ok hfetch⟩

variable {outcome : Except AuditError Report}

/-- An audit keeps no analysis but the one that it has made. -/
lemma Path.mem_analyses (h : a.Path m next x s outcome s' queries) {k : Kept Analysis}
    (hk : k ∈ s'.analyses.cache.kept) :
    k ∈ s.analyses.cache.kept ∨
      ∃ an, k = ⟨x.lower, some an, m.clock⟩ ∧
        (a.analyseDeployed m next x s.nextIssue).1 = .ok an ∧
        sourceQuery a.endpoints x ∈ queries := by
  cases h with
  | repeated hget => exact .inl hk
  | unfetched hmiss hanalysis hfetch => exact .inl hk
  | unkept hmiss hanalysis hfetch hset => exact .inl hk
  | refused hmiss hobtains hreport => exact (hobtains.mem_analyses hk).imp_right fun h => ⟨_, h⟩
  | reportUnkept hmiss hobtains hreport hset =>
    exact (hobtains.mem_analyses hk).imp_right fun h => ⟨_, h⟩
  | reported hmiss hobtains hreport hset =>
    exact (hobtains.mem_analyses hk).imp_right fun h => ⟨_, h⟩

/-- An audit keeps no report but the one that it delivers. -/
lemma Path.mem_reports (h : a.Path m next x s outcome s' queries) {k : Kept Report}
    (hk : k ∈ s'.reports.cache.kept) :
    k ∈ s.reports.cache.kept ∨
      ∃ r an s'', k = ⟨x.lower, some r, m.clock⟩ ∧ outcome = .ok r ∧ (a.report m an).1 = .ok r ∧
        a.Obtains m next x s an s'' queries := by
  cases h with
  | repeated hget => exact .inl (kept_of_get hget ▸ hk)
  | unfetched hmiss hanalysis hfetch => exact .inl hk
  | unkept hmiss hanalysis hfetch hset => exact .inl hk
  | refused hmiss hobtains hreport => exact .inl (hobtains.reports_eq ▸ hk)
  | reportUnkept hmiss hobtains hreport hset => exact .inl (hobtains.reports_eq ▸ hk)
  | reported hmiss hobtains hreport hset =>
    have hcache := ResultCache.cache_of_set_eq_ok hset
    rcases Cache.mem_or_eq_of_mem_kept_set hcache hk with ⟨hk, -⟩ | hk
    · exact .inl hk
    · exact .inr ⟨_, _, _, hk, rfl, hreport, hobtains⟩

/-- A report was kept, or it is the score of the analysis that the audit comes by. -/
lemma Path.of_ok {r : Report} (h : a.Path m next x s (.ok r) s' queries) :
    (∃ kept, (s.reports.get m.clock x).1 = some kept ∧ r = { kept with cached := true }) ∨
      ∃ an s'', (a.report m an).1 = .ok r ∧ a.Obtains m next x s an s'' queries := by
  cases h with
  | repeated hget => exact .inl ⟨_, congrArg Prod.fst hget, rfl⟩
  | reported hmiss hobtains hreport hset => exact .inr ⟨_, _, hreport, hobtains⟩

/-- An audit that comes to an analysis and asks for anything asks the explorer. -/
lemma Obtains.sourceQuery_mem (h : a.Obtains m next x s an s' queries) (hqueries : queries ≠ []) :
    sourceQuery a.endpoints x ∈ queries := by
  cases h with
  | kept hget => exact absurd rfl hqueries
  | fetched hmiss hfetch hset => exact sourceQuery_mem_of_ok hfetch

/-- An audit that asks for anything asks the explorer, if that can be asked. -/
lemma Path.sourceQuery_mem (h : a.Path m next x s outcome s' queries)
    (hsend : (sourceQuery a.endpoints x).Sendable) (hqueries : queries ≠ []) :
    sourceQuery a.endpoints x ∈ queries := by
  cases h with
  | repeated hget => exact absurd rfl hqueries
  | unfetched hmiss hanalysis hfetch => exact sourceQuery_mem_queries hsend hfetch
  | unkept hmiss hanalysis hfetch hset => exact sourceQuery_mem_of_ok hfetch
  | refused hmiss hobtains hreport => exact hobtains.sourceQuery_mem hqueries
  | reportUnkept hmiss hobtains hreport hset => exact hobtains.sourceQuery_mem hqueries
  | reported hmiss hobtains hreport hset => exact hobtains.sourceQuery_mem hqueries

/-- An audit of a source changes nothing but the number of the next issue. -/
lemma state_answer_source (a : Auditor) (s : AuditState) (m : Moment) (next : NextReplies)
    (source x : Text) :
    ∃ n, (a.answer s ⟨m, next, .source source x⟩).done.state = { s with nextIssue := n } :=
  a.auditSource_state m source x s

/-- A call for an address ends in one of the ways. -/
lemma path_answer (a : Auditor) (m : Moment) (next : NextReplies) (x : Text) (hs : s.Filled) :
    a.Path m next x s (a.answer s ⟨m, next, .address x⟩).done.outcome
      (a.answer s ⟨m, next, .address x⟩).done.state
      (a.answer s ⟨m, next, .address x⟩).done.trace.queries :=
  a.path_auditAddress m next x hs

/-- An audit analyses what is deployed if it asks for the source and comes to an analysis. -/
lemma analyses_answer_iff {key : Text} :
    (a.answer s ⟨m, next, .address x⟩).Analyses a key an ↔
      x.lower = key ∧
      sourceQuery a.endpoints x ∈ (a.answer s ⟨m, next, .address x⟩).done.trace.queries ∧
      (a.analyseDeployed m next x s.nextIssue).1 = .ok an := by
  rw [analyseDeployed_eq_ok_iff]
  constructor
  · rintro ⟨x', contract, plain, log, hcall, hkey, hquery, hanalysis⟩
    cases hcall
    exact ⟨hkey, hquery, contract, plain, log, hanalysis⟩
  · rintro ⟨hkey, hquery, contract, plain, log, hanalysis⟩
    exact ⟨x, contract, plain, log, rfl, hkey, hquery, hanalysis⟩

end Auditor

end ContractAudit
