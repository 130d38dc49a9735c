import ContractAudit.Proofs.ServiceRuns
import Mathlib.Tactic.Linarith

/-!
# Staleness of reports

The caches keep nothing without an origin in the log (`Auditor.origins_stateAfter`): an analysis
was made by the call that fetched its source, at the time at which it was set; a report was
delivered by a call that scored an analysis whose source had been fetched less than a lifetime
before. Neither depends on the order in which results are used or dropped. Hence no report is served
whose source was fetched two lifetimes ago (`Auditor.reports_recent`).
-/

namespace ContractAudit

/-- The call delivers the score of an analysis whose source was fetched less than a lifetime
before. -/
def AnsweredCall.Scores (a : Auditor) (ttl : Rat) (log : List AnsweredCall) (key : Text)
    (r : Report) (v : AnsweredCall) : Prop :=
  v.Audits key ∧ v.done.outcome = .ok r ∧
    ∃ f ∈ log, ∃ an, f.Analyses a key an ∧ (a.report v.moment an).1 = .ok r ∧
      v.moment.clock < f.moment.clock + ttl

/-- A call that scores a report does so in every longer log. -/
lemma AnsweredCall.Scores.mono {a : Auditor} {ttl : Rat} {log log' : List AnsweredCall}
    {key : Text} {r : Report} {v : AnsweredCall} (h : v.Scores a ttl log key r)
    (hsub : log ⊆ log') : v.Scores a ttl log' key r := by
  obtain ⟨haudits, houtcome, f, hf, hscored⟩ := h
  exact ⟨haudits, houtcome, f, hsub hf, hscored⟩

/-- Every analysis and every report that is kept comes from a call at the time of its setting. -/
structure AuditState.Origins (a : Auditor) (ttl : Rat) (log : List AnsweredCall) (s : AuditState) :
    Prop where
  analyses : ∀ k ∈ s.analyses.cache.kept, ∀ an, k.value = some an →
    ∃ f ∈ log, f.Analyses a k.key an ∧ f.moment.clock = k.setAt
  reports : ∀ k ∈ s.reports.cache.kept, ∀ r, k.value = some r →
    ∃ v ∈ log, v.Scores a ttl log k.key r ∧ v.moment.clock = k.setAt

namespace Auditor

variable {a : Auditor} {m : Moment} {next : NextReplies} {x : Text} {s s' : AuditState}
  {an : Analysis} {queries : List Query} {capacity : Nat} {ttl : Rat} {log : List AnsweredCall}

/-- A report that is made is not a repeated one. -/
lemma cached_of_report {r : Report} (h : (a.report m an).1 = .ok r) : r.cached = false := by
  unfold report at h
  split at h
  · cases h
  · rename_i name issues houtcome
    simp only [reportOf] at h
    split at h
    · cases h
      rfl
    · cases h

/-- The source of the analysis that an audit comes by was fetched less than a lifetime before. -/
lemma Obtains.origin (hlog : s.Origins a ttl log) (hs : s.Orderly capacity ttl) (httl : 0 < ttl)
    (h : a.Obtains m next x s an s' (a.answer s ⟨m, next, .address x⟩).done.trace.queries) :
    ∃ f ∈ log ++ [a.answer s ⟨m, next, .address x⟩], f.Analyses a x.lower an ∧
      m.clock < f.moment.clock + ttl := by
  rcases h.kept_or_fetched with hget | ⟨hfetch, hquery⟩
  · obtain ⟨t, hkept, hlives⟩ := Cache.exists_kept_of_get hget
    obtain ⟨f, hf, hanalyses, rfl⟩ := hlog.analyses _ hkept an rfl
    rw [hs.analyses.ttl] at hlives
    exact ⟨f, List.mem_append_left _ hf, hanalyses, hlives⟩
  · refine ⟨_, List.mem_append_right _ (List.mem_singleton_self _),
      analyses_answer_iff.2 ⟨rfl, hquery, hfetch⟩, ?_⟩
    show m.clock < m.clock + ttl
    linarith

/-- Every call keeps the origins of what is kept. -/
lemma origins_answer (hlog : s.Origins a ttl log) (hs : s.Orderly capacity ttl) (httl : 0 < ttl)
    (c : TimedCall) : (a.answer s c).done.state.Origins a ttl (log ++ [a.answer s c]) := by
  have hsub : log ⊆ log ++ [a.answer s c] := List.subset_append_left _ _
  have hself : a.answer s c ∈ log ++ [a.answer s c] := by simp
  have hanalyses : ∀ k ∈ s.analyses.cache.kept, ∀ an, k.value = some an →
      ∃ f ∈ log ++ [a.answer s c], f.Analyses a k.key an ∧ f.moment.clock = k.setAt := by
    intro k hk an hvalue
    obtain ⟨f, hf, horigin⟩ := hlog.analyses k hk an hvalue
    exact ⟨f, hsub hf, horigin⟩
  have hreports : ∀ k ∈ s.reports.cache.kept, ∀ r, k.value = some r →
      ∃ v ∈ log ++ [a.answer s c], v.Scores a ttl (log ++ [a.answer s c]) k.key r ∧
        v.moment.clock = k.setAt := by
    intro k hk r hvalue
    obtain ⟨v, hv, hscores, hclock⟩ := hlog.reports k hk r hvalue
    exact ⟨v, hsub hv, hscores.mono hsub, hclock⟩
  obtain ⟨m, next, call⟩ := c
  cases call with
  | source source x =>
    obtain ⟨n, hstate⟩ := a.state_answer_source s m next source x
    rw [hstate]
    exact ⟨hanalyses, hreports⟩
  | address x =>
    have hpath := a.path_answer m next x hs.toFilled
    constructor
    · intro k hk an hvalue
      rcases hpath.mem_analyses hk with hk | ⟨an', rfl, hfetch, hquery⟩
      · exact hanalyses k hk an hvalue
      · cases hvalue
        exact ⟨_, hself, analyses_answer_iff.2 ⟨rfl, hquery, hfetch⟩, rfl⟩
    · intro k hk r hvalue
      rcases hpath.mem_reports hk with hk | ⟨r', an, s'', rfl, houtcome, hreport, hobtains⟩
      · exact hreports k hk r hvalue
      · cases hvalue
        obtain ⟨f, hf, hf', hclock⟩ := hobtains.origin hlog hs httl
        exact ⟨_, hself, ⟨⟨x, rfl, rfl⟩, houtcome, f, hf, an, hf', hreport, hclock⟩, rfl⟩

/-- Whatever a run keeps has its origin in the run. -/
lemma origins_stateAfter (a : Auditor) (capacity : Nat) {ttl : Rat} (httl : 0 < ttl)
    (calls : List TimedCall) :
    (a.stateAfter (.empty capacity ttl) calls).Origins a ttl
      (a.log (.empty capacity ttl) calls) := by
  induction calls using List.reverseRecOn with
  | nil => exact ⟨nofun, nofun⟩
  | append_singleton calls c ih =>
    rw [stateAfter_concat, log_concat]
    exact origins_answer ih (a.orderly_stateAfter capacity ttl calls) httl c

/-- Every report that is served is the score of an analysis whose source was fetched for the same
address, in whatever letter case, less than one lifetime ago, or less than two if the report was
kept. A kept report differs from an earlier one of the run in nothing but that it was kept. -/
theorem reports_recent (a : Auditor) {capacity : Nat} {ttl : Rat} (httl : 0 < ttl)
    (calls : List TimedCall) {past later : List AnsweredCall} {v : AnsweredCall} {x : Text}
    {r : Report} (hlog : a.log (.empty capacity ttl) calls = past ++ v :: later)
    (hcall : v.call = .address x) (houtcome : v.done.outcome = .ok r) :
    ∃ f ∈ past ++ [v], ∃ an, f.Analyses a x.lower an ∧
      (r.cached = false →
        (a.report v.moment an).1 = .ok r ∧ v.moment.clock - ttl < f.moment.clock) ∧
      (r.cached = true → v.moment.clock - 2 * ttl < f.moment.clock ∧
        ∃ w ∈ past, w.Audits x.lower ∧ w.done.outcome = .ok { r with cached := false } ∧
          (a.report w.moment an).1 = .ok { r with cached := false }) := by
  obtain ⟨earlier, ⟨m, next, call⟩, rfl, rfl⟩ := exists_of_log_eq hlog
  obtain rfl : call = .address x := hcall
  have horigins := a.origins_stateAfter capacity httl earlier
  have horderly := a.orderly_stateAfter capacity ttl earlier
  have hpath := a.path_answer m next x horderly.toFilled
  rw [houtcome] at hpath
  rcases hpath.of_ok with ⟨kept, hget, rfl⟩ | ⟨an, s'', hreport, hobtains⟩
  · obtain ⟨t, hkept, hlives⟩ := Cache.exists_kept_of_get hget
    obtain ⟨w, hw, ⟨haudits, hserved, f, hf, an, hanalyses, hreport, hfresh⟩, rfl⟩ :=
      horigins.reports _ hkept kept rfl
    have huncached : { kept with cached := false } = kept := by
      rw [← cached_of_report hreport]
    rw [horderly.reports.ttl] at hlives
    refine ⟨f, List.mem_append_left _ hf, an, hanalyses, nofun, ?_⟩
    refine fun _ => ⟨?_, w, hw, haudits, ?_, ?_⟩
    · show m.clock - 2 * ttl < f.moment.clock
      linarith
    · exact hserved.trans (congrArg Except.ok huncached.symm)
    · exact hreport.trans (congrArg Except.ok huncached.symm)
  · obtain ⟨f, hf, hanalyses, hfresh⟩ := hobtains.origin horigins horderly httl
    refine ⟨f, hf, an, hanalyses, fun _ => ⟨hreport, ?_⟩, ?_⟩
    · show m.clock - ttl < f.moment.clock
      linarith
    · intro hcached
      rw [cached_of_report hreport] at hcached
      cases hcached

/-- A call that the explorer would answer with a contract. -/
def auditAt (clock : Int) (address : String) : TimedCall :=
  ⟨⟨clock, clock * 1000⟩, oneContractEverywhere, .address address⟩

/-- Three addresses in caches for two. The second one loses its report to the third one, keeps its
analysis because the first one was used only as a report, and is scored again. -/
def fiveCalls : List TimedCall :=
  [auditAt 0 "0xaa", auditAt 1 "0xBB", auditAt 2 "0xAA", auditAt 3 "0xcc", auditAt 4 "0xbB"]

/-- The second address again, more than a lifetime after its source was fetched. -/
def sixthCall : AnsweredCall :=
  plainAuditor.answer (plainAuditor.stateAfter (.empty 2 60) fiveCalls) (auditAt 63 "0xbb")

/-- The report on the second address is still kept, and its source is not two lifetimes old. -/
theorem reports_recent_sixthCall :
    ∃ r, sixthCall.done.outcome = .ok r ∧ r.cached = true ∧
      ∃ f ∈ plainAuditor.log (.empty 2 60) fiveCalls ++ [sixthCall],
        ∃ an, f.Analyses plainAuditor (Text.lower "0xbb") an ∧ -57 < f.moment.clock := by
  have hcached : sixthCall.done.outcome.toOption.map Report.cached = some true := by decide +kernel
  cases houtcome : sixthCall.done.outcome with
  | error e =>
    rw [houtcome] at hcached
    cases hcached
  | ok r =>
    rw [houtcome] at hcached
    have hr : r.cached = true := Option.some.inj hcached
    obtain ⟨f, hf, an, hanalyses, -, hkept⟩ :=
      plainAuditor.reports_recent (by decide : (0 : Rat) < 60)
        (fiveCalls ++ [auditAt 63 "0xbb"]) (plainAuditor.log_concat _ _ _) rfl houtcome
    have hclock : (63 : Rat) - 2 * 60 < f.moment.clock := (hkept hr).1
    refine ⟨r, rfl, hr, f, hf, an, hanalyses, ?_⟩
    linarith

end Auditor

end ContractAudit
