import ContractAudit.Proofs.CacheHistory
import ContractAudit.Proofs.Transparency

/-!
# The paths of an audit

An audit of an address repeats a kept report, or obtains an analysis, which is kept or comes from a
fetched source, and reports on it. `Auditor.Path` lists the ways in which it can end, with what
becomes of the caches and what is asked of other services (`Auditor.path_auditAddress`).

A get that meets a stored nothing finds nothing and counts as a use all the same. No service ever
stores it (`Session.Reachable.orderly`).
-/

namespace ContractAudit

/-- The caches keep analyses and reports, never a stored nothing. -/
structure AuditState.Filled (s : AuditState) : Prop where
  analyses : s.analyses.cache.Filled
  reports : s.reports.cache.Filled

/-- A get that finds nothing leaves a filled cache as it is. -/
lemma ResultCache.get_of_eq_none {α : Type} {c : ResultCache α} {now : Rat} {x : Text}
    (hfilled : c.cache.Filled) (hmiss : (c.get now x).1 = none) : (c.get now x).2.1 = c :=
  congrArg (ResultCache.mk c.name) (Cache.get_of_eq_none hfilled hmiss)

/-- Records ask nothing of other services. -/
@[simp] lemma Trace.queries_ofLog (log : List LogRecord) : (Trace.ofLog log).queries = [] :=
  rfl

/-- Queries of two traces, one after the other. -/
@[simp] lemma Trace.queries_append (t t' : Trace) : (t ++ t').queries = t.queries ++ t'.queries :=
  rfl

namespace Auditor

variable {a : Auditor} {m : Moment} {next : NextReplies} {x : Text} {s s' : AuditState}
  {an : Analysis} {queries : List Query}

/-- How an audit comes by an analysis: what it keeps then, and what it has asked for. -/
inductive Obtains (a : Auditor) (m : Moment) (next : NextReplies) (x : Text) (s : AuditState) :
    Analysis → AuditState → List Query → Prop
  | kept {an analyses record} (hget : s.analyses.get m.clock x = (some an, analyses, record)) :
      Obtains a m next x s an { s with analyses := analyses } []
  | fetched {an trace analyses record} (hmiss : (s.analyses.get m.clock x).1 = none)
      (hfetch : a.analyseDeployed m next x s.nextIssue = (.ok an, trace))
      (hset : s.analyses.set m.clock x (some an) = .ok (analyses, record)) :
      Obtains a m next x s an
        { s with analyses := analyses, nextIssue := s.nextIssue + an.issueCount } trace.queries

/-- How an audit ends: its outcome, what it keeps then, and what it has asked for. -/
inductive Path (a : Auditor) (m : Moment) (next : NextReplies) (x : Text) (s : AuditState) :
    Except AuditError Report → AuditState → List Query → Prop
  | repeated {r reports record} (hget : s.reports.get m.clock x = (some r, reports, record)) :
      Path a m next x s (.ok { r with cached := true }) { s with reports := reports } []
  | unfetched {e trace} (hmiss : (s.reports.get m.clock x).1 = none)
      (hanalysis : (s.analyses.get m.clock x).1 = none)
      (hfetch : a.analyseDeployed m next x s.nextIssue = (.error e, trace)) :
      Path a m next x s (.error e) s trace.queries
  | unkept {an trace e} (hmiss : (s.reports.get m.clock x).1 = none)
      (hanalysis : (s.analyses.get m.clock x).1 = none)
      (hfetch : a.analyseDeployed m next x s.nextIssue = (.ok an, trace))
      (hset : s.analyses.set m.clock x (some an) = .error e) :
      Path a m next x s (.error (.cache e)) { s with nextIssue := s.nextIssue + an.issueCount }
        trace.queries
  | refused {an s' queries e} (hmiss : (s.reports.get m.clock x).1 = none)
      (hobtains : Obtains a m next x s an s' queries) (hreport : (a.report m an).1 = .error e) :
      Path a m next x s (.error e) s' queries
  | reportUnkept {an s' queries r e} (hmiss : (s.reports.get m.clock x).1 = none)
      (hobtains : Obtains a m next x s an s' queries) (hreport : (a.report m an).1 = .ok r)
      (hset : s.reports.set m.clock x (some r) = .error e) :
      Path a m next x s (.error (.cache e)) s' queries
  | reported {an s' queries r reports record} (hmiss : (s.reports.get m.clock x).1 = none)
      (hobtains : Obtains a m next x s an s' queries) (hreport : (a.report m an).1 = .ok r)
      (hset : s.reports.set m.clock x (some r) = .ok (reports, record)) :
      Path a m next x s (.ok r) { s' with reports := reports } queries

/-- Coming by an analysis leaves the kept reports alone. -/
lemma Obtains.reports_eq (h : a.Obtains m next x s an s' queries) : s'.reports = s.reports := by
  cases h with
  | kept hget => rfl
  | fetched hmiss hfetch hset => rfl

/-- A report asks nothing of other services. -/
lemma queries_reportAndKeep (a : Auditor) (m : Moment) (x : Text) (s : AuditState)
    (an : Analysis) : (a.reportAndKeep m x s an).trace.queries = [] := by
  unfold reportAndKeep
  split
  · rfl
  · split
    · rfl
    · rfl

/-- An analysis that is at hand leads to the end of an audit. -/
lemma Obtains.path (hobtains : a.Obtains m next x s an s' queries)
    (hmiss : (s.reports.get m.clock x).1 = none) :
    a.Path m next x s (a.reportAndKeep m x s' an).outcome (a.reportAndKeep m x s' an).state
      queries := by
  unfold reportAndKeep
  split
  · rename_i hreport
    exact .refused hmiss hobtains (congrArg Prod.fst hreport)
  · rename_i r log hreport
    rw [hobtains.reports_eq]
    split
    · rename_i hset
      exact .reportUnkept hmiss hobtains (congrArg Prod.fst hreport) hset
    · rename_i hset
      exact .reported hmiss hobtains (congrArg Prod.fst hreport) hset

/-- An audit that finds nothing kept ends in one of the ways. -/
lemma path_fetchAndReport (hmiss : (s.reports.get m.clock x).1 = none)
    (hanalysis : (s.analyses.get m.clock x).1 = none) :
    a.Path m next x s (a.fetchAndReport m next x s).outcome (a.fetchAndReport m next x s).state
      (a.fetchAndReport m next x s).trace.queries := by
  unfold fetchAndReport
  split
  · rename_i hfetch
    exact .unfetched hmiss hanalysis hfetch
  · rename_i an trace hfetch
    simp only
    split
    · rename_i hset
      exact .unkept hmiss hanalysis hfetch hset
    · rename_i analyses record hset
      simp only [Trace.queries_append, Trace.queries_ofLog, queries_reportAndKeep, List.append_nil]
      exact (Obtains.fetched hanalysis hfetch hset).path hmiss

/-- Every audit takes one of the paths. -/
lemma path_auditAddress (a : Auditor) (m : Moment) (next : NextReplies) (x : Text)
    (hs : s.Filled) :
    a.Path m next x s (a.auditAddress m next x s).outcome (a.auditAddress m next x s).state
      (a.auditAddress m next x s).trace.queries := by
  unfold auditAddress
  rcases hget : s.reports.get m.clock x with ⟨kept, reports, record⟩
  cases kept with
  | some r => exact .repeated hget
  | none =>
    have hmiss : (s.reports.get m.clock x).1 = none := congrArg Prod.fst hget
    have hreports : reports = s.reports := by
      rw [← ResultCache.get_of_eq_none hs.reports hmiss, hget]
    subst hreports
    simp only [Trace.queries_append, Trace.queries_ofLog, List.nil_append]
    unfold auditUnreported
    rcases hanalysis : s.analyses.get m.clock x with ⟨kept, analyses, record'⟩
    cases kept with
    | some an =>
      simp only [Trace.queries_append, Trace.queries_ofLog, queries_reportAndKeep, List.append_nil]
      exact (Obtains.kept hanalysis).path hmiss
    | none =>
      have hnone : (s.analyses.get m.clock x).1 = none := congrArg Prod.fst hanalysis
      have hanalyses : analyses = s.analyses := by
        rw [← ResultCache.get_of_eq_none hs.analyses hnone, hanalysis]
      subst hanalyses
      simp only [Trace.queries_append, Trace.queries_ofLog, List.nil_append]
      exact path_fetchAndReport hmiss hnone

end Auditor

/-! ## Caches of a service -/

/-- A cache for so many results that live so long, none of them twice and none of them nothing. -/
structure ResultCache.Orderly {α : Type} (capacity : Nat) (ttl : Rat) (c : ResultCache α) :
    Prop where
  capacity : c.cache.capacity = capacity
  ttl : c.cache.ttl = ttl
  distinct : c.cache.keys.Nodup
  filled : c.cache.Filled

namespace ResultCache.Orderly

variable {α : Type} {capacity : Nat} {ttl now : Rat} {c c' : ResultCache α} {x : Text}
  {record : LogRecord}

/-- Nothing is out of order in an empty cache. -/
lemma empty (name : Text) (capacity : Nat) (ttl : Rat) :
    (⟨name, .empty capacity ttl⟩ : ResultCache α).Orderly capacity ttl :=
  ⟨rfl, rfl, List.nodup_nil, nofun⟩

/-- A command leaves a cache in order, unless it stores a nothing. -/
lemma after (h : c.Orderly capacity ttl) (now : Rat) (command : CacheCommand α)
    (hset : ∀ x value, command = .set x value → value.isSome) :
    (c.after now command).Orderly capacity ttl where
  capacity := (c.limits_after now command).1.trans h.capacity
  ttl := (c.limits_after now command).2.trans h.ttl
  distinct := nodup_keys_after h.distinct now command
  filled := holds_after h.filled now hset

/-- A get leaves a cache in order. -/
lemma get (h : c.Orderly capacity ttl) {found : Option α}
    (hget : c.get now x = (found, c', record)) : c'.Orderly capacity ttl := by
  have hafter : (c.get now x).2.1.Orderly capacity ttl := h.after now (.get x) nofun
  rw [hget] at hafter
  exact hafter

/-- Storing a value leaves a cache in order. -/
lemma set (h : c.Orderly capacity ttl) {v : α}
    (hset : c.set now x (some v) = .ok (c', record)) : c'.Orderly capacity ttl := by
  have hafter : (c.after now (.set x (some v))).Orderly capacity ttl := by
    apply h.after
    rintro x' value ⟨⟩
    rfl
  simp only [ResultCache.after, hset] at hafter
  exact hafter

/-- A cache with room never refuses a value. -/
lemma set_ne_error (h : c.Orderly capacity ttl) (hroom : 0 < capacity) {value : Option α}
    {e : CacheError} : c.set now x value ≠ .error e := by
  intro hset
  have hzero := ResultCache.capacity_of_set_eq_error hset
  rw [h.capacity] at hzero
  omega

/-- What lives is found under every spelling of its key. -/
lemma get_of_mem (h : c.Orderly capacity ttl) {v : α} {t : Rat}
    (hk : ⟨x.lower, some v, t⟩ ∈ c.cache.kept) (hlives : now < t + ttl) :
    (c.get now x).1 = some v := by
  rw [← h.ttl] at hlives
  exact (Cache.get_eq_some_iff h.distinct).2 ⟨t, hk, hlives⟩

/-- What is not found is dead. -/
lemma dead_of_miss (h : c.Orderly capacity ttl) (hmiss : (c.get now x).1 = none) {k : Kept α}
    (hk : k ∈ c.cache.kept) (hkey : k.key = x.lower) : k.setAt + ttl ≤ now := by
  apply le_of_not_gt
  intro hlives
  obtain ⟨key, value, t⟩ := k
  obtain ⟨v, rfl⟩ := Option.isSome_iff_exists.1 (Cache.holds_iff.1 h.filled _ hk)
  obtain rfl : key = x.lower := hkey
  rw [h.get_of_mem hk hlives] at hmiss
  cases hmiss

end ResultCache.Orderly

/-- Both caches are in order. -/
structure AuditState.Orderly (capacity : Nat) (ttl : Rat) (s : AuditState) : Prop where
  analyses : s.analyses.Orderly capacity ttl
  reports : s.reports.Orderly capacity ttl

/-- Caches in order keep no stored nothing. -/
lemma AuditState.Orderly.toFilled {capacity : Nat} {ttl : Rat} {s : AuditState}
    (h : s.Orderly capacity ttl) : s.Filled :=
  ⟨h.analyses.filled, h.reports.filled⟩

namespace Auditor

variable {a : Auditor} {m : Moment} {next : NextReplies} {x : Text} {s s' : AuditState}
  {an : Analysis} {queries : List Query} {capacity : Nat} {ttl : Rat}

/-- Coming by an analysis leaves the caches in order. -/
lemma Obtains.orderly (h : a.Obtains m next x s an s' queries) (hs : s.Orderly capacity ttl) :
    s'.Orderly capacity ttl := by
  cases h with
  | kept hget => exact ⟨hs.analyses.get hget, hs.reports⟩
  | fetched hmiss hfetch hset => exact ⟨hs.analyses.set hset, hs.reports⟩

/-- However an audit ends, it leaves the caches in order. -/
lemma Path.orderly {outcome : Except AuditError Report}
    (h : a.Path m next x s outcome s' queries) (hs : s.Orderly capacity ttl) :
    s'.Orderly capacity ttl := by
  cases h with
  | repeated hget => exact ⟨hs.analyses, hs.reports.get hget⟩
  | unfetched hmiss hanalysis hfetch => exact hs
  | unkept hmiss hanalysis hfetch hset => exact ⟨hs.analyses, hs.reports⟩
  | refused hmiss hobtains hreport => exact hobtains.orderly hs
  | reportUnkept hmiss hobtains hreport hset => exact hobtains.orderly hs
  | reported hmiss hobtains hreport hset =>
    exact ⟨(hobtains.orderly hs).analyses, hs.reports.set hset⟩

/-- An audit of an address leaves the caches in order. -/
lemma orderly_auditAddress (hs : s.Orderly capacity ttl) (a : Auditor) (m : Moment)
    (next : NextReplies) (x : Text) :
    (a.auditAddress m next x s).state.Orderly capacity ttl :=
  (a.path_auditAddress m next x hs.toFilled).orderly hs

/-- An audit of a source leaves the caches in order. -/
lemma orderly_auditSource (hs : s.Orderly capacity ttl) (a : Auditor) (m : Moment)
    (source x : Text) : (a.auditSource m source x s).state.Orderly capacity ttl := by
  obtain ⟨n, hstate⟩ := a.auditSource_state m source x s
  rw [hstate]
  exact ⟨hs.analyses, hs.reports⟩

end Auditor

/-- The sessions that a service can come to: it starts with empty caches, audits, waits, and its
caches are cleared, counted and told to forget, while the other services answer as they like. -/
inductive Session.Reachable : Session → Prop
  | start {settings : Settings} {state log} (hstart : settings.emptyState = .ok (state, log))
      (nesting parse explorer node clock now) :
      Reachable ⟨settings.auditor nesting parse, state, explorer, node, clock, now⟩
  | auditAddress {s} (h : Reachable s) (x) : Reachable (s.auditAddress x).2
  | auditSource {s} (h : Reachable s) (source x) : Reachable (s.auditSource source x).2
  | advance {s} (h : Reachable s) (seconds) : Reachable (s.advance seconds)
  | answers {s} (h : Reachable s) (explorer node) :
      Reachable { s with explorer := explorer, node := node }
  | clear {s} (h : Reachable s) (store) : Reachable (s.clear store).1
  | forget {s} (h : Reachable s) (store x) : Reachable (s.forget store x).2.1
  | sizes {s} (h : Reachable s) : Reachable s.sizes.2

/-- Empty caches for so many results that live so long. -/
def AuditState.empty (capacity : Nat) (ttl : Rat) : AuditState :=
  ⟨⟨"analysis", .empty capacity ttl⟩, ⟨"scores", .empty capacity ttl⟩, 1⟩

/-- A service starts with empty caches, as large and as lasting as its settings say. -/
lemma Settings.eq_empty_of_emptyState {settings : Settings} {state : AuditState}
    {log : List LogRecord} (hstart : settings.emptyState = .ok (state, log)) :
    state = .empty settings.cacheEntries settings.cacheTtl := by
  obtain ⟨⟨analyses, first⟩, hanalyses, hstart⟩ := exists_of_bind_eq_ok hstart
  obtain ⟨⟨reports, second⟩, hreports, hstart⟩ := exists_of_bind_eq_ok hstart
  unfold ResultCache.make at hanalyses hreports
  split at hanalyses
  · cases hanalyses
  · split at hreports
    · cases hreports
    · cases hanalyses
      cases hreports
      cases hstart
      rfl

/-- Empty caches are in order. -/
lemma AuditState.orderly_empty (capacity : Nat) (ttl : Rat) :
    (AuditState.empty capacity ttl).Orderly capacity ttl :=
  ⟨.empty _ _ _, .empty _ _ _⟩

/-- The caches of a service are orderly at all times. -/
lemma Session.Reachable.orderly {s : Session} (h : s.Reachable) :
    ∃ capacity ttl, s.state.Orderly capacity ttl := by
  induction h with
  | start hstart nesting parse explorer node clock now =>
    rw [Settings.eq_empty_of_emptyState hstart]
    exact ⟨_, _, AuditState.orderly_empty _ _⟩
  | auditAddress h x ih =>
    obtain ⟨capacity, ttl, hs⟩ := ih
    exact ⟨capacity, ttl, Auditor.orderly_auditAddress hs _ _ _ _⟩
  | auditSource h source x ih =>
    obtain ⟨capacity, ttl, hs⟩ := ih
    exact ⟨capacity, ttl, Auditor.orderly_auditSource hs _ _ _ _⟩
  | advance h seconds ih => exact ih
  | answers h explorer node ih => exact ih
  | @clear s h store ih =>
    obtain ⟨capacity, ttl, hs⟩ := ih
    cases store with
    | analyses => exact ⟨capacity, ttl, hs.analyses.after s.clock .clear nofun, hs.reports⟩
    | reports => exact ⟨capacity, ttl, hs.analyses, hs.reports.after s.clock .clear nofun⟩
  | @forget s h store x ih =>
    obtain ⟨capacity, ttl, hs⟩ := ih
    cases store with
    | analyses => exact ⟨capacity, ttl, hs.analyses.after s.clock (.delete x) nofun, hs.reports⟩
    | reports => exact ⟨capacity, ttl, hs.analyses, hs.reports.after s.clock (.delete x) nofun⟩
  | @sizes s h ih =>
    obtain ⟨capacity, ttl, hs⟩ := ih
    exact ⟨capacity, ttl, hs.analyses.after s.clock .size nofun,
      hs.reports.after s.clock .size nofun⟩

end ContractAudit
