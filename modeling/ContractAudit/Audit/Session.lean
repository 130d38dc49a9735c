import ContractAudit.Audit.Basic
import ContractAudit.Settings.Basic
import ContractAudit.Solidity.Source

/-!
# Sessions

A session is a running service: an auditor, what it keeps, the replies that other services will
give, and the time. Kept results and the time of day grow older together.
-/

namespace ContractAudit

/-- The two stores of kept results. -/
inductive Store where
  | analyses
  | reports
  deriving DecidableEq, Repr

/-- A running service. -/
structure Session where
  auditor : Auditor
  state : AuditState
  explorer : Replies
  node : Replies
  /-- The time by which kept results grow old. -/
  clock : Rat
  /-- The time of day. -/
  now : Seconds

/-- What audits are made with under some settings. -/
def Settings.auditor (s : Settings) (nesting : Nesting) (parse : Text → Except ParseError Node) :
    Auditor :=
  ⟨⟨s.explorerUrl, s.explorerKey, s.nodeUrl, nesting⟩, s.weights, defaultDetectors, parse⟩

/-- Empty stores under some settings, with what is logged. -/
def Settings.emptyState (s : Settings) : Except CacheError (AuditState × List LogRecord) := do
  let (analyses, first) ← ResultCache.make "analysis" s.cacheEntries (.whole s.cacheTtl)
  let (reports, second) ← ResultCache.make "scores" s.cacheEntries (.whole s.cacheTtl)
  return (⟨analyses, reports, 1⟩, [first, second])

/-- The typed tree of a source, from the concrete tree that is known for it or else from its
text. -/
def parseKnown (trees : List (Text × ParseTree)) (source : Text) : Except ParseError Node :=
  parseSource source ((lookup? source trees).getD (Solidity.concreteTree source))

namespace Session

/-- The moment of the session. -/
def moment (s : Session) : Moment :=
  ⟨s.clock, s.now.millis⟩

/-- The replies that would come now. -/
def nextReplies (s : Session) : NextReplies :=
  ⟨s.explorer.next.1, s.node.next.1⟩

/-- The session after a query, which takes up a reply. -/
def afterQuery (s : Session) : Query → Session
  | .get _ _ => { s with explorer := s.explorer.next.2 }
  | .post _ _ => { s with node := s.node.next.2 }

/-- The session after an audit. -/
def after (s : Session) (done : Audited) : Session :=
  { done.trace.queries.foldl afterQuery s with state := done.state }

/-- Audits what is deployed at an address. -/
def auditAddress (s : Session) (address : Text) : Audited × Session :=
  let done := s.auditor.auditAddress s.moment s.nextReplies address s.state
  (done, s.after done)

/-- Audits a source. -/
def auditSource (s : Session) (source address : Text) : Audited × Session :=
  let done := s.auditor.auditSource s.moment source address s.state
  (done, s.after done)

/-- Lets time pass. -/
def advance (s : Session) (seconds : Seconds) : Session :=
  { s with clock := s.clock + seconds.toRat, now := s.now.add seconds }

/-- Forgets what is in a store. -/
def clear (s : Session) : Store → Session × List LogRecord
  | .analyses =>
    let (c, record) := s.state.analyses.clear
    ({ s with state := { s.state with analyses := c } }, [record])
  | .reports =>
    let (c, record) := s.state.reports.clear
    ({ s with state := { s.state with reports := c } }, [record])

/-- Forgets what is in both stores. -/
def clearAll (s : Session) : Session × List LogRecord :=
  let (s, first) := s.clear .analyses
  let (s, second) := s.clear .reports
  (s, first ++ second)

/-- Forgets what is kept for an address in a store; says whether anything was. -/
def forget (s : Session) (store : Store) (address : Text) : Bool × Session × List LogRecord :=
  match store with
  | .analyses =>
    let (removed, c, record) := s.state.analyses.delete s.clock address
    (removed, { s with state := { s.state with analyses := c } }, [record])
  | .reports =>
    let (removed, c, record) := s.state.reports.delete s.clock address
    (removed, { s with state := { s.state with reports := c } }, [record])

/-- How many analyses and reports are kept. -/
def sizes (s : Session) : (Nat × Nat) × Session :=
  let (analyses, kept) := s.state.analyses.size s.clock
  let (reports, keptReports) := s.state.reports.size s.clock
  ((analyses, reports),
    { s with state := { s.state with analyses := kept, reports := keptReports } })

end Session

end ContractAudit
