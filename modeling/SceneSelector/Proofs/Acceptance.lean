import SceneSelector.CommandLine.Report
import SceneSelector.Proofs.Extraction

/-!
# Formats agree on what is accepted

Of a query that is to be drawn, the report decides by itself whether it is
rejected, and why; for the data formats that is left to reading the query. The
two ask the outcome of matching the same questions in different orders, and
reading could fail for a reason that the drawing does not know. It never does:
`Rejection.toError` is the error that reading gives wherever the drawing gives a
reason, and there is a query wherever it gives none
(`parseSelector_eq_rejection`).
-/

namespace SceneSelector.CommandLine

open Matcher

/-- The error that stands for the same reason. Where a token is quoted, the
error quotes no more than its literal. -/
def Rejection.toError : Rejection → QueryError
  | depthLimit maxDepth => .depthLimit maxDepth
  | unexpected next consumed total =>
    .trailingInput consumed total next.literal
  | noMatch => .noMatch

variable {maxDepth : Nat} {query : String}

/-! ## The two judgements -/

theorem rejection?_eq_none_iff {o : Outcome} :
    rejection? maxDepth o = none ↔ o.isComplete = true := by
  unfold rejection?
  split
  · next h => simp [h]
  · next h =>
    split
    · simp [h]
    · split
      · split <;> simp [h]
      · simp [h]

theorem exists_parseSelector_of_rejection?_eq_none
    (h : rejection? maxDepth ((selector maxDepth).parse query) = none) :
    ∃ q, (selector maxDepth).parseSelector query = .ok q :=
  (classifies_parseSelector maxDepth query).ok_iff.mpr
    (rejection?_eq_none_iff.mp h)

/-- What an outcome is like that is rejected for a reason. -/
inductive Rejects (maxDepth : Nat) (o : Outcome) : Rejection → Prop where
  | depthLimit (flagged : o.depthExceeded = true) :
      Rejects maxDepth o (.depthLimit maxDepth)
  | unexpected {next : Token} (unflagged : o.depthExceeded = false)
      (matched : o.matched = true) (next_eq : o.next? = some next) :
      Rejects maxDepth o (.unexpected next o.consumed o.tokenCount)
  | noMatch (unflagged : o.depthExceeded = false)
      (left : o.matched = true → o.next? = none) : Rejects maxDepth o .noMatch

theorem rejects_of_rejection? {o : Outcome} {r : Rejection}
    (h : rejection? maxDepth o = some r) :
    o.isComplete = false ∧ Rejects maxDepth o r := by
  unfold rejection? at h
  split at h
  · cases h
  next hcomplete =>
  refine ⟨Bool.eq_false_iff.mpr hcomplete, ?_⟩
  split at h
  · next hflag =>
    cases h
    exact .depthLimit hflag
  next hflag =>
  rw [Bool.not_eq_true] at hflag
  split at h
  · next next hnext =>
    split at h
    · next hm =>
      cases h
      exact .unexpected hflag hm hnext
    · next hm =>
      cases h
      exact .noMatch hflag fun hm' => absurd hm' hm
  · next hnext =>
    cases h
    exact .noMatch hflag fun _ => hnext

/-- Whatever reason the drawing gives, reading the query gives the same. -/
theorem parseSelector_eq_rejection {r : Rejection}
    (h : rejection? maxDepth ((selector maxDepth).parse query) = some r) :
    (selector maxDepth).parseSelector query = .error r.toError := by
  have hanswers := classifies_parseSelector maxDepth query
  obtain ⟨hcomplete, hrejects⟩ := rejects_of_rejection? h
  cases hrejects with
  | depthLimit flagged =>
    exact (hanswers.depthLimit_iff maxDepth).mpr ⟨rfl, hcomplete, flagged⟩
  | unexpected unflagged matched next_eq =>
    obtain ⟨consumed, total, literal, hanswer⟩ :=
      hanswers.trailingInput_iff.mpr ⟨matched, hcomplete, unflagged⟩
    obtain ⟨rfl, rfl, -, -, hliteral⟩ :=
      hanswers.trailingInput_reports _ _ _ hanswer
    have hnext := (congrArg (Option.map Token.literal) next_eq).symm
    cases hnext.trans hliteral
    exact hanswer
  | noMatch unflagged left =>
    refine hanswers.noMatch_iff.mpr ⟨Bool.eq_false_iff.mpr fun hm => ?_,
      unflagged⟩
    -- a match that leaves no token would have been complete
    have hlt := Outcome.consumed_lt_of_incomplete
      (Descent.consumed_le maxDepth (lex query)) hm hcomplete
    exact absurd (List.getElem?_eq_none_iff.mp (left hm)) (Nat.not_le.mpr hlt)

/-! ## The reports -/

variable {c : Configuration}

/-- How a report in a format words the reason of a rejection. -/
def Rejection.messageIn (r : Rejection) : OutputFormat → String
  | .treeviz => r.message
  | .json | .yaml => r.toError.message

theorem code_parseReport_of_accepted
    (h : rejection? c.maxDepth ((selector c.maxDepth).parse query) = none) :
    (parseReport c query).code = 0 := by
  obtain ⟨q, hq⟩ := exists_parseSelector_of_rejection?_eq_none h
  unfold parseReport
  split
  · simp only [drawingReport, h]
    rfl
  · simp only [queryReport, hq]
    rfl
  · simp only [queryReport, hq]
    rfl

theorem parseReport_of_rejection {r : Rejection}
    (h : rejection? c.maxDepth ((selector c.maxDepth).parse query) = some r) :
    (parseReport c query).code = 1 ∧
      (parseReport c query).stderr =
        rejected (r.messageIn c.format) ++ "\n" := by
  have herror := parseSelector_eq_rejection h
  unfold parseReport
  cases c.format with
  | treeviz =>
    simp only [drawingReport, h]
    exact ⟨rfl, rfl⟩
  | json =>
    simp only [queryReport, herror]
    exact ⟨rfl, rfl⟩
  | yaml =>
    simp only [queryReport, herror]
    exact ⟨rfl, rfl⟩

theorem code_parseReport_eq_zero_iff : (parseReport c query).code = 0 ↔
    rejection? c.maxDepth ((selector c.maxDepth).parse query) = none := by
  constructor
  · intro hcode
    cases h : rejection? c.maxDepth ((selector c.maxDepth).parse query) with
    | none => rfl
    | some r =>
      rw [(parseReport_of_rejection h).1] at hcode
      cases hcode
  · exact code_parseReport_of_accepted

/-- **The formats agree on acceptance**: under a configuration, a query that is
accepted in one format is accepted in every other. If it is rejected, the reason
that goes with its drawing stands for the error that reading it gives, and every
report names that reason in the words of its format. The reason is never that a
record could not be read back. -/
theorem parseReport_format_agrees (c : Configuration) (query : String) :
    (∀ f f' : OutputFormat,
      (parseReport { c with format := f } query).code = 0 ↔
        (parseReport { c with format := f' } query).code = 0) ∧
    ((parseReport { c with format := .treeviz } query).code ≠ 0 →
      ∃ r : Rejection,
        rejection? c.maxDepth ((selector c.maxDepth).parse query) = some r ∧
        (selector c.maxDepth).parseSelector query = .error r.toError ∧
        ∀ f : OutputFormat,
          (parseReport { c with format := f } query).stderr =
            rejected (r.messageIn f) ++ "\n") ∧
    ∀ rule, (selector c.maxDepth).parseSelector query ≠
      .error (.malformed rule) := by
  refine ⟨fun f f' => ?_, fun hcode => ?_, ?_⟩
  · rw [code_parseReport_eq_zero_iff, code_parseReport_eq_zero_iff]
  · rw [Ne, code_parseReport_eq_zero_iff] at hcode
    obtain ⟨r, hr⟩ := Option.ne_none_iff_exists'.mp hcode
    refine ⟨r, hr, parseSelector_eq_rejection hr, fun f => ?_⟩
    exact (parseReport_of_rejection (c := { c with format := f }) hr).2
  · exact (classifies_parseSelector c.maxDepth query).not_malformed

/-- The comma after the class is unexpected, and the configured format makes no
difference to that. -/
theorem parseReport_format_agrees_at_comma :
    let c : Configuration := ⟨20, .yaml, true⟩
    (parseReport { c with format := .treeviz } ".a,b").code ≠ 0 ∧
    ∃ r : Rejection,
      rejection? c.maxDepth ((selector c.maxDepth).parse ".a,b") = some r ∧
      (selector c.maxDepth).parseSelector ".a,b" = .error r.toError ∧
      ∀ f : OutputFormat,
        (parseReport { c with format := f } ".a,b").stderr =
          rejected (r.messageIn f) ++ "\n" :=
  have hcode : (parseReport ⟨20, .treeviz, true⟩ ".a,b").code ≠ 0 := by decide
  ⟨hcode, (parseReport_format_agrees ⟨20, .yaml, true⟩ ".a,b").2.1 hcode⟩

end SceneSelector.CommandLine
