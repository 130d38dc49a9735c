import ContractAudit.Proofs.FailedAudits
import ContractAudit.Proofs.ServiceRuns

/-!
# No needless fetches

As long as no more addresses are audited than the caches have room for, nothing that lives is
dropped (`Auditor.Path.mem_of_lives`). So the analysis of a fetched source is at hand until it dies,
whatever else is audited in the meantime (`Auditor.remembers_stateAfter`), and the explorer is not
asked for the address again before that. A source that could not be analysed is refused again from
the kept analysis alone (`Auditor.no_refetch`).
-/

namespace ContractAudit

namespace Auditor

variable {a : Auditor} {m : Moment} {next : NextReplies} {x : Text} {s s' : AuditState}
  {an : Analysis} {queries : List Query} {outcome : Except AuditError Report}
  {capacity : Nat} {ttl : Rat}

/-! ## What an audit does with an analysis -/

/-- There is no report on a failed analysis but its message. -/
lemma report_of_failed {message : Text} (h : an.outcome = .failed message) :
    (a.report m an).1 = .error (.unanalysed message) := by
  rw [report, h]

/-- An analysis that was asked for is the one that was fetched, and it is kept. -/
lemma Obtains.of_fetch {found : Analysis} (h : a.Obtains m next x s found s' queries)
    (hquery : sourceQuery a.endpoints x ∈ queries)
    (hfetch : (a.analyseDeployed m next x s.nextIssue).1 = .ok an) :
    found = an ∧ ∃ record, s.analyses.set m.clock x (some an) = .ok (s'.analyses, record) := by
  cases h with
  | kept hget => cases hquery
  | fetched hmiss hfetched hset =>
    rw [hfetched] at hfetch
    cases hfetch
    exact ⟨rfl, _, hset⟩

/-- An audit that fetches a source keeps the analysis and reports on it. -/
lemma Path.of_fetch (h : a.Path m next x s outcome s' queries) (hs : s.Orderly capacity ttl)
    (hroom : 0 < capacity) (hquery : sourceQuery a.endpoints x ∈ queries)
    (hfetch : (a.analyseDeployed m next x s.nextIssue).1 = .ok an) :
    (s.reports.get m.clock x).1 = none ∧ outcome = (a.report m an).1 ∧
      ∃ record, s.analyses.set m.clock x (some an) = .ok (s'.analyses, record) := by
  cases h with
  | repeated hget => cases hquery
  | unfetched hmiss hanalysis hfailed =>
    rw [hfailed] at hfetch
    cases hfetch
  | unkept hmiss hanalysis hfetched hset => exact absurd hset (hs.analyses.set_ne_error hroom)
  | refused hmiss hobtains hreport =>
    obtain ⟨rfl, hkept⟩ := hobtains.of_fetch hquery hfetch
    exact ⟨hmiss, hreport.symm, hkept⟩
  | reportUnkept hmiss hobtains hreport hset =>
    exact absurd hset (hs.reports.set_ne_error hroom)
  | reported hmiss hobtains hreport hset =>
    obtain ⟨rfl, hkept⟩ := hobtains.of_fetch hquery hfetch
    exact ⟨hmiss, hreport.symm, hkept⟩

/-- An analysis that is kept is the one that is used, and nothing is asked. -/
lemma Obtains.of_kept {found : Analysis} (h : a.Obtains m next x s found s' queries)
    (hkept : (s.analyses.get m.clock x).1 = some an) : found = an ∧ queries = [] := by
  cases h with
  | kept hget =>
    rw [hget] at hkept
    exact ⟨Option.some.inj hkept, rfl⟩
  | fetched hmiss hfetched hset =>
    rw [hmiss] at hkept
    cases hkept

/-- An audit that finds an analysis asks for nothing, and reports on it unless a report is kept. -/
lemma Path.of_kept (h : a.Path m next x s outcome s' queries) (hs : s.Orderly capacity ttl)
    (hroom : 0 < capacity) (hkept : (s.analyses.get m.clock x).1 = some an) :
    queries = [] ∧ ((s.reports.get m.clock x).1 = none → outcome = (a.report m an).1) := by
  cases h with
  | repeated hget =>
    refine ⟨rfl, fun hmiss => ?_⟩
    rw [hget] at hmiss
    cases hmiss
  | unfetched hmiss hanalysis hfailed =>
    rw [hanalysis] at hkept
    cases hkept
  | unkept hmiss hanalysis hfetched hset =>
    rw [hanalysis] at hkept
    cases hkept
  | refused hmiss hobtains hreport =>
    obtain ⟨rfl, rfl⟩ := hobtains.of_kept hkept
    exact ⟨rfl, fun _ => hreport.symm⟩
  | reportUnkept hmiss hobtains hreport hset =>
    exact absurd hset (hs.reports.set_ne_error hroom)
  | reported hmiss hobtains hreport hset =>
    obtain ⟨rfl, rfl⟩ := hobtains.of_kept hkept
    exact ⟨rfl, fun _ => hreport.symm⟩

/-! ## What lives stays -/

/-- The kept analyses are for some of the keys. -/
def KeysAmong (keys : Finset Text) (s : AuditState) : Prop :=
  ∀ k ∈ s.analyses.cache.kept, k.key ∈ keys

/-- Coming by an analysis drops none that lives if there is room for all keys. -/
lemma Obtains.mem_of_lives (h : a.Obtains m next x s an s' queries) (hs : s.Orderly capacity ttl)
    {keys : Finset Text} (hkeys : KeysAmong keys s) (hcard : keys.card ≤ capacity)
    (hx : x.lower ∈ keys) {k : Kept Analysis} (hk : k ∈ s.analyses.cache.kept)
    (hlives : m.clock < k.setAt + ttl) : k ∈ s'.analyses.cache.kept := by
  cases h with
  | kept hget =>
    rw [kept_of_get hget]
    exact hk
  | fetched hmiss hfetch hset =>
    apply Cache.mem_kept_set_of_card (ResultCache.cache_of_set_eq_ok hset) hs.analyses.distinct
      hkeys (hs.analyses.capacity.symm ▸ hcard) hx hk
    · -- a living analysis of the address would have been found
      intro hkey
      have hdead := hs.analyses.dead_of_miss hmiss hk hkey
      exact absurd hlives (not_lt_of_ge hdead)
    · exact hs.analyses.ttl.symm ▸ hlives

/-- No audit drops an analysis that lives. -/
lemma Path.mem_of_lives (h : a.Path m next x s outcome s' queries) (hs : s.Orderly capacity ttl)
    {keys : Finset Text} (hkeys : KeysAmong keys s) (hcard : keys.card ≤ capacity)
    (hx : x.lower ∈ keys) {k : Kept Analysis} (hk : k ∈ s.analyses.cache.kept)
    (hlives : m.clock < k.setAt + ttl) : k ∈ s'.analyses.cache.kept := by
  cases h with
  | repeated hget => exact hk
  | unfetched hmiss hanalysis hfetch => exact hk
  | unkept hmiss hanalysis hfetch hset => exact hk
  | refused hmiss hobtains hreport => exact hobtains.mem_of_lives hs hkeys hcard hx hk hlives
  | reportUnkept hmiss hobtains hreport hset =>
    exact hobtains.mem_of_lives hs hkeys hcard hx hk hlives
  | reported hmiss hobtains hreport hset =>
    exact hobtains.mem_of_lives hs hkeys hcard hx hk hlives

/-- A call that has analysed a source is remembered: its analysis is kept until it dies, and if it
has failed, all reports on the address have been dead since. -/
def Remembers (a : Auditor) (ttl now : Rat) (s : AuditState) (f : AnsweredCall) : Prop :=
  ∀ key an, f.Analyses a key an → now < f.moment.clock + ttl →
    ⟨key, some an, f.moment.clock⟩ ∈ s.analyses.cache.kept ∧
      ∀ message, an.outcome = .failed message →
        ∀ k ∈ s.reports.cache.kept, k.key = key → k.setAt + ttl ≤ f.moment.clock

/-- As time goes by, less has to be remembered. -/
lemma Remembers.later {now t : Rat} {f : AnsweredCall} (h : a.Remembers ttl now s f)
    (hle : now ≤ t) : a.Remembers ttl t s f :=
  fun key an hanalyses hlives => h key an hanalyses (lt_of_le_of_lt hle hlives)

/-- No audit makes a service forget the calls before it. -/
lemma Path.remembers (h : a.Path m next x s outcome s' queries) (hs : s.Orderly capacity ttl)
    {keys : Finset Text} (hkeys : KeysAmong keys s) (hcard : keys.card ≤ capacity)
    (hx : x.lower ∈ keys) {f : AnsweredCall} (hf : a.Remembers ttl m.clock s f) :
    a.Remembers ttl m.clock s' f := by
  intro key an hanalyses hlives
  obtain ⟨hkept, hdead⟩ := hf key an hanalyses hlives
  refine ⟨h.mem_of_lives hs hkeys hcard hx hkept hlives, ?_⟩
  intro message hfailed k hk hkey
  rcases h.mem_reports hk with hold | ⟨r, found, s'', rfl, -, hreport, hobtains⟩
  · exact hdead message hfailed k hold hkey
  · -- a report on this key would be one on the failed analysis, which is at hand
    subst hkey
    obtain ⟨rfl, -⟩ := hobtains.of_kept (hs.analyses.get_of_mem hkept hlives)
    rw [report_of_failed hfailed] at hreport
    cases hreport

/-- Every audit is remembered right after it. -/
lemma remembers_self (hs : s.Orderly capacity ttl) (hroom : 0 < capacity) :
    a.Remembers ttl m.clock (a.answer s ⟨m, next, .address x⟩).done.state
      (a.answer s ⟨m, next, .address x⟩) := by
  intro key an hanalyses hlives
  obtain ⟨rfl, hquery, hfetch⟩ := analyses_answer_iff.1 hanalyses
  have hpath := a.path_answer m next x hs.toFilled
  obtain ⟨hmiss, houtcome, record, hset⟩ := hpath.of_fetch hs hroom hquery hfetch
  constructor
  · exact Cache.mem_kept_set_self (ResultCache.cache_of_set_eq_ok hset)
  · intro message hfailed k hk hkey
    rcases hpath.mem_reports hk with hold | ⟨r, found, s'', rfl, hok, -, -⟩
    · exact hs.reports.dead_of_miss hmiss hold hkey
    · rw [houtcome, report_of_failed hfailed] at hok
      cases hok

/-- A call for one of the keys keeps analyses for these keys only. -/
lemma keysAmong_answer {keys : Finset Text} (hkeys : KeysAmong keys s)
    (hs : s.Orderly capacity ttl) {c : TimedCall}
    (hc : ∀ x, c.call = .address x → x.lower ∈ keys) :
    KeysAmong keys (a.answer s c).done.state := by
  obtain ⟨m, next, call⟩ := c
  cases call with
  | source source x =>
    obtain ⟨n, hstate⟩ := a.state_answer_source s m next source x
    rw [hstate]
    exact hkeys
  | address x =>
    intro k hk
    rcases (a.path_answer m next x hs.toFilled).mem_analyses hk with hold | ⟨an, rfl, -, -⟩
    · exact hkeys k hold
    · exact hc x rfl

/-- After a call, it and all calls before it are remembered. -/
lemma remembers_answer {keys : Finset Text} (hkeys : KeysAmong keys s)
    (hs : s.Orderly capacity ttl) (hcard : keys.card ≤ capacity) {c : TimedCall}
    (hc : ∀ x, c.call = .address x → x.lower ∈ keys) {log : List AnsweredCall}
    (hlog : ∀ f ∈ log, a.Remembers ttl c.moment.clock s f) :
    ∀ f ∈ log ++ [a.answer s c],
      a.Remembers ttl c.moment.clock (a.answer s c).done.state f := by
  obtain ⟨m, next, call⟩ := c
  intro f hf
  cases call with
  | source source x =>
    obtain ⟨n, hstate⟩ := a.state_answer_source s m next source x
    rw [hstate]
    rcases List.mem_append.1 hf with hold | hnew
    · exact hlog f hold
    · obtain rfl := List.mem_singleton.1 hnew
      rintro key an ⟨x', contract, plain, log, ⟨⟩, -⟩
  | address x =>
    have hx := hc x rfl
    rcases List.mem_append.1 hf with hold | hnew
    · exact (a.path_answer m next x hs.toFilled).remembers hs hkeys hcard hx (hlog f hold)
    · obtain rfl := List.mem_singleton.1 hnew
      exact remembers_self hs ((Finset.card_pos.2 ⟨_, hx⟩).trans_le hcard)

/-! ## Runs -/

/-- A run remembers all its calls, whatever the time is. -/
lemma remembers_stateAfter (a : Auditor) {keys : Finset Text} (hcard : keys.card ≤ capacity)
    (calls : List TimedCall) {now : Rat}
    (hclock : (calls.map (·.moment.clock) ++ [now]).Pairwise (· ≤ ·))
    (hkeys : ∀ c ∈ calls, ∀ x, c.call = .address x → x.lower ∈ keys) :
    KeysAmong keys (a.stateAfter (.empty capacity ttl) calls) ∧
      ∀ f ∈ a.log (.empty capacity ttl) calls,
        a.Remembers ttl now (a.stateAfter (.empty capacity ttl) calls) f := by
  induction calls using List.reverseRecOn generalizing now with
  | nil =>
    constructor
    · intro k hk
      cases hk
    · intro f hf
      cases hf
  | append_singleton calls c ih =>
    rw [List.map_append, List.pairwise_append] at hclock
    obtain ⟨hbefore, -, hle⟩ := hclock
    obtain ⟨hamong, hlog⟩ := ih hbefore fun c hc => hkeys c (List.mem_append_left _ hc)
    have horderly := a.orderly_stateAfter capacity ttl calls
    have hc := hkeys c (by simp)
    rw [stateAfter_concat, log_concat]
    refine ⟨keysAmong_answer hamong horderly hc, ?_⟩
    intro f hf
    have hnow : c.moment.clock ≤ now := hle _ (by simp) _ (by simp)
    exact (remembers_answer hamong horderly hcard hc hlog f hf).later hnow

/-- A call that has analysed a source has reported on the analysis. -/
lemma outcome_of_mem_log {calls : List TimedCall} {f : AnsweredCall} {key : Text}
    (hf : f ∈ a.log (.empty capacity ttl) calls) (hroom : 0 < capacity)
    (hanalyses : f.Analyses a key an) : f.done.outcome = (a.report f.moment an).1 := by
  obtain ⟨past, later, hlog⟩ := List.append_of_mem hf
  obtain ⟨earlier, ⟨m, next, call⟩, -, rfl⟩ := exists_of_log_eq hlog
  have horderly := a.orderly_stateAfter capacity ttl earlier
  cases call with
  | source source x => obtain ⟨x', contract, plain, log, ⟨⟩, -⟩ := hanalyses
  | address x =>
    obtain ⟨-, hquery, hfetch⟩ := analyses_answer_iff.1 hanalyses
    exact ((a.path_answer m next x horderly.toFilled).of_fetch horderly hroom hquery hfetch).2.1

/-- An audit of an address whose source is remembered asks for nothing. If the source could not be
analysed, the audit says so again. -/
lemma Remembers.answer {f : AnsweredCall} (hf : a.Remembers ttl m.clock s f)
    (hle : f.moment.clock ≤ m.clock) (hs : s.Orderly capacity ttl) (hroom : 0 < capacity)
    (hanalyses : f.Analyses a x.lower an) (hlives : m.clock < f.moment.clock + ttl) :
    (a.answer s ⟨m, next, .address x⟩).done.trace.queries = [] ∧
      ∀ message, an.outcome = .failed message →
        (a.answer s ⟨m, next, .address x⟩).done.outcome = .error (.unanalysed message) := by
  obtain ⟨hkept, hdead⟩ := hf _ an hanalyses hlives
  have hget := hs.analyses.get_of_mem hkept hlives
  obtain ⟨hqueries, houtcome⟩ := (a.path_answer m next x hs.toFilled).of_kept hs hroom hget
  refine ⟨hqueries, ?_⟩
  intro message hfailed
  have hmiss : (s.reports.get m.clock x).1 = none := by
    cases hreport : (s.reports.get m.clock x).1 with
    | none => rfl
    | some r =>
      obtain ⟨t, hmem, hliving⟩ := Cache.exists_kept_of_get hreport
      have hend := hdead message hfailed _ hmem rfl
      rw [hs.reports.ttl] at hliving
      exact absurd hliving (not_lt_of_ge (hend.trans hle))
  rw [houtcome hmiss, report_of_failed hfailed]

/-- Two calls of a run: the earlier one has analysed a source, and the later one asks for it again
only when the analysis is dead. -/
def Spares (a : Auditor) (ttl : Rat) (first second : AnsweredCall) : Prop :=
  ∀ key an, first.Analyses a key an →
    (second.LooksUp a key → first.moment.clock + ttl ≤ second.moment.clock) ∧
    ∀ message, an.outcome = .failed message → second.Audits key →
      second.moment.clock < first.moment.clock + ttl →
      first.done.outcome = .error (.unanalysed message) ∧
        second.done.outcome = .error (.unanalysed message) ∧ second.done.trace.queries = []

/-- A call that is remembered spares the next one a request. -/
lemma spares_answer {f : AnsweredCall} {c : TimedCall}
    (hf : a.Remembers ttl c.moment.clock s f) (hle : f.moment.clock ≤ c.moment.clock)
    (hs : s.Orderly capacity ttl) (hroom : ∀ x, c.call = .address x → 0 < capacity)
    (hfirst : ∀ key an, f.Analyses a key an → f.done.outcome = (a.report f.moment an).1) :
    a.Spares ttl f (a.answer s c) := by
  obtain ⟨m, next, call⟩ := c
  intro key an hanalyses
  constructor
  · rintro ⟨x, hcall, rfl, hquery⟩
    obtain rfl : call = .address x := hcall
    by_contra hearly
    have hlives : m.clock < f.moment.clock + ttl := lt_of_not_ge hearly
    rw [(hf.answer hle hs (hroom x rfl) hanalyses hlives).1] at hquery
    cases hquery
  · rintro message hfailed ⟨x, hcall, rfl⟩ hlives
    obtain rfl : call = .address x := hcall
    obtain ⟨hqueries, houtcome⟩ := hf.answer hle hs (hroom x rfl) hanalyses hlives
    refine ⟨?_, houtcome message hfailed, hqueries⟩
    rw [hfirst _ an hanalyses, report_of_failed hfailed]

/-- In a run of calls, every call spares all later ones. -/
lemma pairwise_spares (a : Auditor) {keys : Finset Text} (hcard : keys.card ≤ capacity)
    (calls : List TimedCall) (hclock : (calls.map (·.moment.clock)).Pairwise (· ≤ ·))
    (hkeys : ∀ c ∈ calls, ∀ x, c.call = .address x → x.lower ∈ keys) :
    (a.log (.empty capacity ttl) calls).Pairwise (a.Spares ttl) := by
  induction calls using List.reverseRecOn with
  | nil => exact .nil
  | append_singleton calls c ih =>
    have hkeys' : ∀ c ∈ calls, ∀ x, c.call = .address x → x.lower ∈ keys :=
      fun c hc => hkeys c (List.mem_append_left _ hc)
    have hroom : ∀ c' ∈ calls ++ [c], ∀ x, c'.call = .address x → 0 < capacity :=
      fun c' hc' x hcall => (Finset.card_pos.2 ⟨_, hkeys c' hc' x hcall⟩).trans_le hcard
    rw [List.map_append, List.map_singleton] at hclock
    obtain ⟨hbefore, -, hle⟩ := List.pairwise_append.1 hclock
    rw [log_concat, List.pairwise_append]
    refine ⟨ih hbefore hkeys', List.pairwise_singleton _ _, ?_⟩
    intro f hf v hv
    obtain rfl := List.mem_singleton.1 hv
    have hmem := toTimedCall_mem_of_mem_log hf
    apply spares_answer ((a.remembers_stateAfter hcard calls hclock hkeys').2 f hf)
    · exact hle _ (List.mem_map_of_mem hmem) _ (List.mem_singleton_self _)
    · exact a.orderly_stateAfter capacity ttl calls
    · exact hroom c (by simp)
    · intro key an hanalyses
      have hanalysed := hanalyses
      obtain ⟨x, contract, plain, log, hcall, -⟩ := hanalysed
      exact outcome_of_mem_log hf (hroom _ (List.mem_append_left _ hmem) x hcall) hanalyses

end Auditor

/-- The keys of the addresses that are audited. -/
def auditedKeys (calls : List TimedCall) : List Text :=
  calls.filterMap fun c =>
    match c.call with
    | .address x => some x.lower
    | .source _ _ => none

/-- The key of a call for an address is among the keys of the run. -/
lemma lower_mem_auditedKeys {calls : List TimedCall} {c : TimedCall} {x : Text} (hc : c ∈ calls)
    (hcall : c.call = .address x) : x.lower ∈ auditedKeys calls :=
  List.mem_filterMap.2 ⟨c, hc, by rw [hcall]⟩

/-- If no more addresses are audited than the caches have room for, then a source that was fetched
and analysed is not asked for again within the lifetime of the analysis. An analysis that failed is
in the meantime refused again with the same message and without a request. -/
theorem Auditor.no_refetch (a : Auditor) {capacity : Nat} (ttl : Rat) (calls : List TimedCall)
    (hclock : (calls.map fun c => c.moment.clock).Pairwise (· ≤ ·))
    (hroom : (auditedKeys calls).toFinset.card ≤ capacity) :
    (a.log (.empty capacity ttl) calls).Pairwise (a.Spares ttl) := by
  have hkeys : ∀ c ∈ calls, ∀ x, c.call = .address x → x.lower ∈ (auditedKeys calls).toFinset :=
    fun c hc x hcall => List.mem_toFinset.2 (lower_mem_auditedKeys hc hcall)
  exact pairwise_spares a hroom calls hclock hkeys

namespace Auditor

/-- A call whose address has a contract that cannot be analysed. -/
def brokenAt (clock : Int) (address : String) : TimedCall :=
  ⟨⟨clock, clock * 1000⟩, brokenContract, .address address⟩

/-- Two addresses in caches for two, and a given source in between. -/
def fiveBrokenCalls : List TimedCall :=
  [brokenAt 0 "0xAB", ⟨⟨1, 1000⟩, oneContractEverywhere, .address "0xcd"⟩,
    ⟨⟨2, 2000⟩, brokenContract, .source "contract A \x7b\x7d" "0xef"⟩,
    brokenAt 30 "0xab", brokenAt 60 "0xAb"]

/-- The first call for the broken contract. -/
def firstBroken : AnsweredCall :=
  plainAuditor.answer (.empty 2 60) (brokenAt 0 "0xAB")

/-- The last call for it, when the first analysis is dead. -/
def lastBroken : AnsweredCall :=
  plainAuditor.answer (plainAuditor.stateAfter (.empty 2 60) (fiveBrokenCalls.take 4))
    (brokenAt 60 "0xAb")

/-- The broken contract is refused again without a request, and is asked for again once the analysis
is dead. -/
theorem no_refetch_fiveBrokenCalls :
    (auditedKeys fiveBrokenCalls).toFinset.card ≤ 2 ∧
      ∃ served given again,
        plainAuditor.log (.empty 2 60) fiveBrokenCalls =
          [firstBroken, served, given, again, lastBroken] ∧
        again.done.outcome = firstBroken.done.outcome ∧ again.done.trace.queries = [] ∧
        lastBroken.LooksUp plainAuditor (Text.lower "0xab") ∧
        firstBroken.moment.clock + 60 ≤ lastBroken.moment.clock := by
  have hroom : (auditedKeys fiveBrokenCalls).toFinset.card ≤ 2 := by decide +kernel
  have hpairs := plainAuditor.no_refetch 60 fiveBrokenCalls (by decide +kernel) hroom
  have hrun : (unanalysedMessage? firstBroken.done.outcome).isSome ∧
      firstBroken.done.trace.queries.isEmpty = false ∧
      lastBroken.done.trace.queries.isEmpty = false := by decide +kernel
  obtain ⟨hmessage, hasked, hrenewed⟩ := hrun
  obtain ⟨message, hmessage⟩ := Option.isSome_iff_exists.1 hmessage
  have houtcome := unanalysedMessage?_eq_some hmessage
  have hfilled : (AuditState.empty 2 60).Filled :=
    (plainAuditor.orderly_stateAfter 2 60 []).toFilled
  have hpath : plainAuditor.Path _ _ _ _ firstBroken.done.outcome _ _ :=
    plainAuditor.path_answer _ _ _ hfilled
  have hsend : (sourceQuery plainAuditor.endpoints "0xAB").Sendable :=
    sendable_sourceQuery_iff.2 ⟨by decide, nofun⟩
  have hquery := hpath.sourceQuery_mem hsend (List.isEmpty_eq_false_iff.1 hasked)
  rw [houtcome] at hpath
  obtain ⟨an, -, hfetch, hfailed, -⟩ :=
    hpath.analyses_of_unanalysed (List.isEmpty_eq_false_iff.1 hasked)
  have hanalyses : firstBroken.Analyses plainAuditor (Text.lower "0xab") an :=
    analyses_answer_iff.2 ⟨by decide +kernel, hquery, hfetch⟩
  have hfirst := (List.pairwise_cons.1 hpairs).1
  have hlast : lastBroken.LooksUp plainAuditor (Text.lower "0xab") := by
    refine ⟨"0xAb", rfl, by decide +kernel, ?_⟩
    have hlastPath := plainAuditor.path_answer ⟨60, 60 * 1000⟩ brokenContract "0xAb"
      (plainAuditor.orderly_stateAfter 2 60 (fiveBrokenCalls.take 4)).toFilled
    have hsend : (sourceQuery plainAuditor.endpoints "0xAb").Sendable :=
      sendable_sourceQuery_iff.2 ⟨by decide, nofun⟩
    exact hlastPath.sourceQuery_mem hsend (List.isEmpty_eq_false_iff.1 hrenewed)
  refine ⟨hroom, _, _, _, rfl, ?_⟩
  obtain ⟨-, hagain⟩ := hfirst _ (.tail _ (.tail _ (.head _))) _ an hanalyses
  obtain ⟨hsame, hrefused, hqueries⟩ :=
    hagain message hfailed ⟨"0xab", rfl, rfl⟩ (by decide +kernel)
  refine ⟨hrefused.trans hsame.symm, hqueries, hlast, ?_⟩
  exact (hfirst lastBroken (.tail _ (.tail _ (.tail _ (.head _)))) _ an hanalyses).1 hlast

end Auditor

end ContractAudit
