import ContractAudit.Lookup.Bytecode
import ContractAudit.Proofs.LowerCase

/-!
# Queries that can be sent

A query is sent unless it has a surrogate that stands alone. For the explorer that can be one of the
address or of the key (`sendable_sourceQuery_iff`), for the node one of the address
(`sendable_codeQuery_iff`). Whoever asks gets the value of the reply exactly if the query can be sent
and the reply is a success with a value (`Query.ask_eq_ok_iff`).
-/

namespace ContractAudit

open Utf8 (isSurrogate)

/-! ## Asking -/

namespace Reply

/-- A success with a value in its body, which is nested up to a limit. -/
def Answers (limit : Nat) (v : Json) : Reply → Prop
  | .failure _ => False
  | .response status _ body => status / 100 = 2 ∧ bodyValue limit body = .ok v

/-- A success with a body that is nested beyond a limit. -/
def TooDeep (limit : Nat) : Reply → Prop
  | .failure _ => False
  | .response status _ body => status / 100 = 2 ∧ bodyValue limit body = .error .tooDeep

variable {reply : Reply} {limit : Nat}

/-- A value is read from a success that has it, whoever was asked. -/
lemma read_eq_ok_iff (url : Text) {v : Json} :
    reply.read limit url = .ok v ↔ reply.Answers limit v := by
  cases reply with
  | failure message => simp [read, Answers]
  | response status location body =>
    by_cases hstatus : status / 100 = 2
    · simp [read, Answers, hstatus]
    · simp [read, Answers, hstatus]

/-- Reading fails for the nesting of a success only. -/
lemma read_eq_tooDeep_iff (url : Text) :
    reply.read limit url = .error .tooDeep ↔ reply.TooDeep limit := by
  cases reply with
  | failure message => simp [read, TooDeep]
  | response status location body =>
    by_cases hstatus : status / 100 = 2
    · simp [read, TooDeep, hstatus]
    · simp [read, TooDeep, hstatus]

end Reply

namespace Query

/-- The query has an address to which it can be sent. -/
def Sendable (q : Query) : Prop :=
  ∃ url, q.target = .ok url

variable {q : Query} {limit : Nat} {reply : Reply}

/-- A query that can be sent is sent. -/
lemma sent_of_sendable (h : q.Sendable) : q.sent = [q] := by
  obtain ⟨url, htarget⟩ := h
  rw [sent, htarget]

/-- Asking gives a value exactly if the query can be sent and the reply has the value. -/
lemma ask_eq_ok_iff {v : Json} :
    q.ask limit reply = .ok v ↔ q.Sendable ∧ reply.Answers limit v := by
  cases htarget : q.target with
  | ok url => simp [ask, Sendable, htarget, Reply.read_eq_ok_iff]
  | error e => simp [ask, Sendable, htarget]

/-- Asking fails for its nesting exactly if the query can be sent and the reply is nested too
deeply. -/
lemma ask_eq_tooDeep_iff :
    q.ask limit reply = .error .tooDeep ↔ q.Sendable ∧ reply.TooDeep limit := by
  cases htarget : q.target with
  | ok url => simp [ask, Sendable, htarget, Reply.read_eq_tooDeep_iff]
  | error e => simp [ask, Sendable, htarget]

end Query

/-! ## Forms -/

/-- Whether a result can be mapped does not depend on the map. -/
lemma exists_map_eq_ok_iff {ε α β : Type} {found : Except ε α} (f : α → β) :
    (∃ v, found.map f = .ok v) ↔ ∃ u, found = .ok u := by
  cases found with
  | ok u => simp [Except.map]
  | error e => simp [Except.map]

/-- A list can be gone through exactly if every element can. -/
lemma exists_mapM_eq_ok_iff {ε α β : Type} (f : α → Except ε β) (xs : List α) :
    (∃ ys, xs.mapM f = .ok ys) ↔ ∀ x ∈ xs, ∃ y, f x = .ok y := by
  induction xs with
  | nil => simp [pure, Except.pure]
  | cons x xs ih =>
    rw [List.forall_mem_cons, ← ih, List.mapM_cons]
    cases f x with
    | error e => simp [bind, Except.bind]
    | ok y =>
      cases xs.mapM f with
      | error e => simp [bind, Except.bind]
      | ok ys => simp [bind, Except.bind, pure, Except.pure]

/-- A form can be sent exactly if none of its values has a surrogate. -/
lemma Percent.exists_form_eq_ok_iff (fields : List (String × Text)) :
    (∃ s, form fields = .ok s) ↔ ∀ field ∈ fields, field.2.any isSurrogate = false := by
  simp only [form, formField, encodeForm, exists_map_eq_ok_iff, exists_mapM_eq_ok_iff,
    Utf8.exists_encode_eq_ok_iff]

/-! ## Values -/

/-- No character is a lone surrogate. -/
@[simp]
lemma isSurrogate_scalar (c : Char) : isSurrogate (.scalar c) = false :=
  rfl

/-- A string spells a text without surrogates. -/
lemma Text.any_isSurrogate_ofString (s : String) :
    (Text.ofString s).any isSurrogate = false := by
  simp [Text.ofString]

namespace Json

/-- Escapes in a string that is sent have no surrogates, and add none. -/
lemma any_isSurrogate_sentPoint (p : CodePoint) :
    (sentPoint p).any isSurrogate = isSurrogate p := by
  unfold sentPoint
  split
  · rename_i hescaped
    -- what is escaped is a control, a quote or a backslash
    have hchar : isSurrogate p = false := by
      cases p with
      | scalar c => rfl
      | surrogate i =>
        rw [Bool.or_eq_true, Bool.or_eq_true, decide_eq_true_eq, CodePoint.value] at hescaped
        rcases hescaped with (hcontrol | hquote) | hslash
        · omega
        · cases hquote
        · cases hslash
    rw [hchar]
    simp
  · simp

/-- A string is sent with the surrogates of its text. -/
lemma any_isSurrogate_sentString (t : Text) :
    (sentString t).any isSurrogate = t.any isSurrogate := by
  simp only [sentString, List.cons_append, List.any_cons, List.any_append, List.any_nil,
    List.any_flatMap, any_isSurrogate_sentPoint, isSurrogate_scalar, Bool.false_or, Bool.or_false]

end Json

/-! ## The two queries -/

/-- The explorer can be asked exactly if neither the address nor the key has a surrogate. -/
lemma sendable_sourceQuery_iff {e : Endpoints} {x : Text} :
    (sourceQuery e x).Sendable ↔
      x.any isSurrogate = false ∧ ∀ k ∈ e.explorerKey, k.any isSurrogate = false := by
  simp only [sourceQuery, Query.Sendable, Query.target, exists_map_eq_ok_iff,
    Percent.exists_form_eq_ok_iff]
  simp only [List.cons_append, List.nil_append, List.forall_mem_cons,
    Text.any_isSurrogate_ofString, true_and]
  -- a key is sent unless it is empty, and then it has no surrogate
  cases e.explorerKey with
  | none => simp
  | some k =>
    cases k with
    | nil => simp
    | cons p k => simp

/-- Whether the explorer can be asked does not depend on the letter case of the address. -/
lemma sendable_sourceQuery_congr {e : Endpoints} {x y : Text} (h : x.lower = y.lower) :
    (sourceQuery e x).Sendable ↔ (sourceQuery e y).Sendable := by
  rw [sendable_sourceQuery_iff, sendable_sourceQuery_iff, ← x.lower_any_isSurrogate, h,
    y.lower_any_isSurrogate]

/-- The node can be asked exactly if the address has no surrogate. -/
lemma sendable_codeQuery_iff {e : Endpoints} {x : Text} :
    (codeQuery e x).Sendable ↔ x.any isSurrogate = false := by
  simp only [codeQuery, Query.Sendable, Query.target, exists_map_eq_ok_iff,
    Utf8.exists_encode_eq_ok_iff]
  simp only [Json.ofFields, Json.ofString, List.map_cons, List.map_nil, Json.sentText,
    Json.sentMembers, Json.sentItems, List.cons_append, List.any_cons, List.any_append,
    List.any_nil, Json.any_isSurrogate_sentString, Text.any_isSurrogate_ofString,
    isSurrogate_scalar, Bool.false_or, Bool.or_false]

end ContractAudit
