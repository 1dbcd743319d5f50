import Mathlib.Control.Monad.Basic
import PlainQuery.Detection
import PlainQuery.Proofs.Json.Equality

/-!
# The model is asked at most once

An opinion on a message is the count of its words unless a model has a better one.  Whatever goes
wrong on the way from the model to a usable document, the opinion is that of the count as a whole,
and otherwise it is that of the document as a whole.

`Settles` says so without reference to the program: it has one constructor for each way to fail and
one for a document that says whether data is required, where a missing confidence or a missing
reason is replaced by a standard one.  The opinion of the program is its only solution
(`settles_iff`), so the cases are complete and do not overlap.

How often a model is asked is a statement about effects.  `recorded` is a model that keeps a record
of its calls next to whatever it does, in any monad; a run of the detection with it shows the
calls.  With a decisive count there are none (`detect_of_decisive`), and otherwise there is one, for
a document (`detect_of_not_decisive`).  `detect_asksOnce` states both together with what the opinion
is.
-/

namespace PlainQuery

variable {m : Type → Type}

/-- A prompt, and what is asked for. -/
abbrev ModelCall := String × ReplyFormat

/-- The model, with a record of its calls. -/
def recorded [Monad m] (model : Model m) : Model (StateT (List ModelCall) m) :=
  fun prompt format => do
    modify (· ++ [(prompt, format)])
    model prompt format

theorem run_recorded [Monad m] [LawfulMonad m] (model : Model m) (prompt : String)
    (format : ReplyFormat) (calls : List ModelCall) :
    (recorded model prompt format).run calls =
      (fun outcome => (outcome, calls ++ [(prompt, format)])) <$> model prompt format := by
  simp [recorded]

namespace Detection

open Number (Double Floating)

variable {message reply : String} {outcome : Except ModelError String} {members : Fields Json}
  {value : Json} {detection : Detection}

/-! ## What an outcome comes to -/

/-- The number under "confidence", moved into the range from zero to one, or a half if there is
none. -/
def StatesConfidence (members : Fields Json) (confidence : Double) : Prop :=
  (∃ number, members.get? "confidence" = some (.number number) ∧
    confidence = Floating.clamp (.zero false) (.ofNat 1) number.toDouble) ∨
  (∀ number, members.get? "confidence" ≠ some (.number number)) ∧
    confidence = Floating.ofRatio false 1 2

/-- The text under "reasoning", or the standard one if there is none. -/
def StatesReasoning (members : Fields Json) (reasoning : String) : Prop :=
  members.get? "reasoning" = some (.string reasoning) ∨
  (∀ text, members.get? "reasoning" ≠ some (.string text)) ∧ reasoning = "Model detection"

/-- What asking a model about a message comes to. -/
inductive Settles (message : String) : Except ModelError String → Detection → Prop
  /-- There is no reply. -/
  | failed {error : ModelError} : Settles message (.error error) (heuristic message)
  /-- There is no document in the reply. -/
  | unreadable {reply : String} {problem : ReplyError}
      (hreply : Reply.extractJson reply = .error problem) :
      Settles message (.ok reply) (heuristic message)
  | notObject {reply : String} {value : Json} (hreply : Reply.extractJson reply = .ok value)
      (hvalue : ∀ members, value ≠ .object members) :
      Settles message (.ok reply) (heuristic message)
  /-- The object does not say whether data is required. -/
  | undecided {reply : String} {members : Fields Json}
      (hreply : Reply.extractJson reply = .ok (.object members))
      (hanswer : ∀ answer, members.get? "requires_data" ≠ some (.bool answer)) :
      Settles message (.ok reply) (heuristic message)
  | decided {reply : String} {members : Fields Json} {detection : Detection}
      (hreply : Reply.extractJson reply = .ok (.object members))
      (hanswer : members.get? "requires_data" = some (.bool detection.isDataQuery))
      (hconfidence : StatesConfidence members detection.confidence)
      (hreasoning : StatesReasoning members detection.reasoning) :
      Settles message (.ok reply) detection

/-- The opinion after a model was asked. -/
def settled (message : String) : Except ModelError String → Detection
  | .ok reply => (ofReply? reply).getD (heuristic message)
  | .error _ => heuristic message

/-! ## Members of the document -/

theorem bool?_eq_some_iff {answer : Bool} : value.bool? = some answer ↔ value = .bool answer := by
  cases value <;> simp [Json.bool?]

theorem statesConfidence_iff {confidence : Double} :
    StatesConfidence members confidence ↔
      Intent.confidenceOf (members.get? "confidence") = confidence := by
  cases hget : members.get? "confidence" with
  | none =>
      simp [StatesConfidence, hget, Intent.confidenceOf, Intent.defaultConfidence, eq_comm]
  | some value =>
      -- only a number states a confidence
      cases value <;>
        simp [StatesConfidence, hget, Intent.confidenceOf, Intent.defaultConfidence,
          Intent.clampConfidence, Json.double?, eq_comm]

theorem statesReasoning_iff {reasoning : String} :
    StatesReasoning members reasoning ↔
      ((members.get? "reasoning").bind Json.string?).getD "Model detection" = reasoning := by
  cases hget : members.get? "reasoning" with
  | none => simp [StatesReasoning, hget, eq_comm]
  | some value => cases value <;> simp [StatesReasoning, hget, Json.string?, eq_comm]

theorem ofJson?_of_notObject (hvalue : ∀ members, value ≠ .object members) :
    ofJson? value = none := by
  cases value with
  | object members => exact absurd rfl (hvalue members)
  | _ => rfl

theorem ofJson?_of_undecided
    (hanswer : ∀ answer, members.get? "requires_data" ≠ some (.bool answer)) :
    ofJson? (.object members) = none := by
  cases hget : members.get? "requires_data" with
  | none => simp [ofJson?, Json.members?, hget]
  | some value =>
      have hnone : value.bool? = none := by
        rw [Option.eq_none_iff_forall_ne_some]
        intro answer hbool
        rw [bool?_eq_some_iff] at hbool
        exact hanswer answer (hbool ▸ hget)
      simp [ofJson?, Json.members?, hget, hnone]

theorem ofJson?_eq_some_iff {answer : Bool}
    (hanswer : members.get? "requires_data" = some (.bool answer)) :
    ofJson? (.object members) = some detection ↔
      answer = detection.isDataQuery ∧ StatesConfidence members detection.confidence ∧
        StatesReasoning members detection.reasoning := by
  rw [statesConfidence_iff, statesReasoning_iff]
  obtain ⟨isDataQuery, confidence, reasoning⟩ := detection
  simp [ofJson?, Json.members?, Json.bool?, hanswer]

theorem exists_ofJson?_eq {answer : Bool}
    (hanswer : members.get? "requires_data" = some (.bool answer)) :
    ∃ detection, ofJson? (.object members) = some detection ∧ detection.isDataQuery = answer :=
  ⟨⟨answer, _, _⟩, (ofJson?_eq_some_iff hanswer).mpr
    ⟨rfl, statesConfidence_iff.mpr rfl, statesReasoning_iff.mpr rfl⟩, rfl⟩

/-! ## One opinion for each outcome -/

theorem settled_of_ok (hreply : Reply.extractJson reply = .ok value) :
    settled message (.ok reply) = (ofJson? value).getD (heuristic message) := by
  rw [settled, ofReply?, hreply]

theorem settled_of_error {problem : ReplyError}
    (hreply : Reply.extractJson reply = .error problem) :
    settled message (.ok reply) = heuristic message := by
  simp only [settled, ofReply?, hreply, Option.getD_none]

theorem Settles.settled_eq (h : Settles message outcome detection) :
    settled message outcome = detection := by
  cases h with
  | failed => rfl
  | unreadable hreply => exact settled_of_error hreply
  | notObject hreply hvalue =>
      rw [settled_of_ok hreply, ofJson?_of_notObject hvalue, Option.getD_none]
  | undecided hreply hanswer =>
      rw [settled_of_ok hreply, ofJson?_of_undecided hanswer, Option.getD_none]
  | decided hreply hanswer hconfidence hreasoning =>
      have hsome := (ofJson?_eq_some_iff hanswer).mpr ⟨rfl, hconfidence, hreasoning⟩
      rw [settled_of_ok hreply, hsome, Option.getD_some]

theorem settles_settled (message : String) (outcome : Except ModelError String) :
    Settles message outcome (settled message outcome) := by
  cases outcome with
  | error problem => exact .failed
  | ok reply =>
      cases hreply : Reply.extractJson reply with
      | error problem =>
          rw [settled_of_error hreply]
          exact .unreadable hreply
      | ok value =>
          rw [settled_of_ok hreply]
          -- no object, an object without an answer, an object with one
          by_cases hobject : ∃ members : Fields Json, value = .object members
          · obtain ⟨members, rfl⟩ := hobject
            by_cases hanswered : ∃ answer, members.get? "requires_data" = some (.bool answer)
            · obtain ⟨answer, hanswer⟩ := hanswered
              obtain ⟨detection, hsome, rfl⟩ := exists_ofJson?_eq hanswer
              obtain ⟨-, hconfidence, hreasoning⟩ := (ofJson?_eq_some_iff hanswer).mp hsome
              rw [hsome, Option.getD_some]
              exact .decided hreply hanswer hconfidence hreasoning
            · have hanswer := not_exists.mp hanswered
              rw [ofJson?_of_undecided hanswer, Option.getD_none]
              exact .undecided hreply hanswer
          · have hvalue := not_exists.mp hobject
            rw [ofJson?_of_notObject hvalue, Option.getD_none]
            exact .notObject hreply hvalue

theorem settles_iff : Settles message outcome detection ↔ settled message outcome = detection := by
  constructor
  · exact Settles.settled_eq
  · rintro rfl
    exact settles_settled message outcome

/-! ## Runs -/

section Runs

variable [Monad m]

theorem detect_of_decisive (model : Option (Model m))
    (h : decisive.le (heuristic message).confidence = true) :
    detect model message = pure (heuristic message) := by
  cases model with
  | none => rfl
  | some model => simp [detect, h]

theorem detect_of_not_decisive [LawfulMonad m] (model : Model m)
    (h : decisive.le (heuristic message).confidence = false) :
    detect (some model) message =
      settled message <$> model (Prompt.detection message) .document := by
  rw [detect, h, map_eq_pure_bind]
  refine bind_congr fun outcome => ?_
  cases outcome <;> rfl

/-- **The model is asked at most once, and its opinion is taken as a whole or not at all.**  Without
a model or with a decisive count no model is called, and the opinion is that of the count.
Otherwise the model is called once, for a document, and there is one opinion that its outcome comes
to. -/
theorem detect_asksOnce [LawfulMonad m] (model : Option (Model m)) (message : String)
    (calls : List ModelCall) :
    (model = none ∨ decisive.le (heuristic message).confidence = true →
      (detect (model.map recorded) message).run calls = pure (heuristic message, calls)) ∧
    ∀ asked, model = some asked → decisive.le (heuristic message).confidence = false →
      ∃ opinion : Except ModelError String → Detection,
        (∀ outcome detection, Settles message outcome detection ↔ opinion outcome = detection) ∧
        (detect (model.map recorded) message).run calls =
          (fun outcome =>
              (opinion outcome, calls ++ [(Prompt.detection message, ReplyFormat.document)])) <$>
            asked (Prompt.detection message) .document := by
  constructor
  · rintro (rfl | hdecisive)
    · rfl
    · rw [detect_of_decisive _ hdecisive]
      rfl
  · rintro asked rfl hdecisive
    -- `settled` does not depend on the model, so its opinion is fixed before the call
    refine ⟨settled message, fun outcome detection => settles_iff, ?_⟩
    rw [Option.map_some, detect_of_not_decisive _ hdecisive, StateT.run_map, run_recorded,
      Functor.map_map]

end Runs

/-- A reply in prose around an object that states too much confidence and no reason. -/
def proseReply : String :=
  "Sure, here it is:\n\x7b\"requires_data\": true, \"confidence\": 7\x7d"

/-- A message without any of the words: the model decides.  With a decisive one it is not asked. -/
theorem detect_proseReply :
    let model : Model Id := fun _ _ => .ok proseReply
    decisive.le (heuristic "zzz").confidence = false ∧
      decisive.le (heuristic "total revenue").confidence = true ∧
      (detect (some (recorded model)) "zzz").run [] =
        (⟨true, .ofNat 1, "Model detection"⟩, [(Prompt.detection "zzz", .document)]) ∧
      (detect (some (recorded model)) "total revenue").run [] =
        (heuristic "total revenue", []) := by
  intro model
  have hweak : decisive.le (heuristic "zzz").confidence = false := by decide +kernel
  have hdecisive : decisive.le (heuristic "total revenue").confidence = true := by decide +kernel
  obtain ⟨opinion, hopinion, hrun⟩ := (detect_asksOnce (some model) "zzz" []).2 model rfl hweak
  have hreply : Reply.extractJson proseReply =
      .ok (.object [("confidence", .number (.integer 7)), ("requires_data", .bool true)]) := by
    decide +kernel
  have hsettles : Settles "zzz" (.ok proseReply) ⟨true, .ofNat 1, "Model detection"⟩ :=
    .decided hreply rfl (.inl ⟨_, rfl, by decide +kernel⟩) (.inr ⟨nofun, rfl⟩)
  refine ⟨hweak, hdecisive, ?_,
    (detect_asksOnce (some model) "total revenue" []).1 (.inr hdecisive)⟩
  rw [← (hopinion _ _).mp hsettles]
  exact hrun

end Detection

end PlainQuery
