import ContractAudit.Text.Blank
import ContractAudit.Text.CaseTable

/-!
# Case

Full Unicode lower and upper case. One letter depends on its neighbours: a capital sigma becomes
the final form when a cased letter stands before it and none after it, marks not counted.
-/

namespace ContractAudit

/-- The image of a code point number under a table of runs. -/
def mapRuns (runs : List (Nat × Nat × Nat × Int)) (n : Nat) : Nat :=
  match runs.find? fun (first, last, step, _) => first ≤ n && n ≤ last && (n - first) % step == 0 with
  | some (_, _, _, shift) => (n + shift).toNat
  | none => n

/-- Whether a letter has case. -/
def CodePoint.isCased (p : CodePoint) : Bool :=
  inRanges casedRanges p.value

/-- Whether a mark is passed over when the letters around a sigma are looked at. -/
def CodePoint.isCaseIgnorable (p : CodePoint) : Bool :=
  inRanges caseIgnorableRanges p.value

/-- Whether the nearest letter that counts has case. -/
def nearestIsCased (ps : Text) : Bool :=
  match ps.dropWhile CodePoint.isCaseIgnorable with
  | [] => false
  | p :: _ => p.isCased

/-- The lower-case form of a code point between the code points before it, nearest first, and the
code points after it. -/
def lowerPoint (before after : Text) (p : CodePoint) : Text :=
  let n := p.value
  if n < 0x80 then
    [if 0x41 ≤ n ∧ n ≤ 0x5A then .ofNatD (n + 32) else p]
  else if n = 0x3A3 then
    [.ofNatD (if nearestIsCased before && !nearestIsCased after then 0x3C2 else 0x3C3)]
  else if n = 0x130 then [.ofNatD 0x69, .ofNatD 0x307]
  else [.ofNatD (mapRuns lowerRuns n)]

/-- Lower case, with the code points already passed, nearest first. -/
def lowerAux (before : Text) : Text → Text
  | [] => []
  | p :: after => lowerPoint before after p ++ lowerAux (p :: before) after

/-- The text in lower case. -/
def Text.lower (t : Text) : Text :=
  lowerAux [] t

/-- The upper-case form of a code point. -/
def upperPoint (p : CodePoint) : Text :=
  let n := p.value
  if n < 0x80 then
    [if 0x61 ≤ n ∧ n ≤ 0x7A then .ofNatD (n - 32) else p]
  else
    match upperExpansions.find? fun e => e.1 == n with
    | some (_, ns) => ns.map .ofNatD
    | none => [.ofNatD (mapRuns upperRuns n)]

/-- The text in upper case. -/
def Text.upper (t : Text) : Text :=
  t.flatMap upperPoint

end ContractAudit
