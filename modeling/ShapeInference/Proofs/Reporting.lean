import ShapeInference.Logging
import ShapeInference.Proofs.Location
import ShapeInference.Proofs.Reading
import ShapeInference.Proofs.Settings

/-!
# What inference reports

Inference checks the strategy, reads the document, classifies its value and reports that a shape was
inferred, in this order, and the first step that fails is the last one. What is reported therefore
tells how far it came: a strategy that is none leaves no trace, invalid input is reported once, as
the failure describes it, and only a run that returns reports a shape.

- `Event.IsReportOf`, `Event.IsResultOf`: what is said of invalid input, and of a shape;
- `Value.mentions_paths`: classification reports empty arrays and nothing else;
- `Document.reportsItself_load`: reading reports nothing but its own failure;
- `Document.events_inferWith`: what a run that returns reports, and in which order;
- `Document.inference_reports_in_order`: what is reported if a step fails, and if none does.
-/

namespace ShapeInference

namespace Event

/-- A detail of an event, if there is one of this name. -/
def detail? (e : Event) (name : Text) : Option Value :=
  Entries.last? (· = ·) name e.details

/-- An event reports invalid input: for this reason, and at this place if there is one. -/
structure IsReportOf (e : Event) (reason : Text) (place : Option Place) : Prop where
  name : e.name = "invalid_input"
  reason : e.detail? "reason" = some (.text reason)
  line : e.detail? "line" = place.map fun p => .int p.line
  column : e.detail? "column" = place.map fun p => .int p.column

theorem isReportOf_invalidInput (reason : Text) (place : Option Place) :
    (invalidInput reason place).IsReportOf reason place := by
  cases place with
  | none => exact ⟨rfl, rfl, rfl, rfl⟩
  | some p => exact ⟨rfl, rfl, rfl, rfl⟩

/-- An event reports that a shape was inferred with this strategy. -/
structure IsResultOf (e : Event) (s : Strategy) : Prop where
  name : e.name = "type_inferred"
  strategy : e.details = [(("strategy" : Text), .text s.name)]

/-- Only the report of a shape has its name. -/
theorem name_eq_inferred_iff {e : Event} : e.name = "type_inferred" ↔ ∃ s, e = inferred s := by
  have hempty : ("empty_array_found" : Text) ≠ "type_inferred" := by decide
  have hinvalid : ("invalid_input" : Text) ≠ "type_inferred" := by decide
  cases e with
  | emptyArray path => simp [name, hempty]
  | inferred s => exact ⟨fun _ => ⟨s, rfl⟩, fun _ => rfl⟩
  | invalidInput reason place => simp [name, hinvalid]

end Event

namespace Value

variable {s : Strategy}

/-- **Classification mentions paths**, so all it reports are empty arrays, whatever the keys are. -/
theorem mentions_paths (v : Value) : ∀ path, Mentions (classifyAt s path v) fun _ => True := by
  induction v using walk_induction with
  | array v items hitems ih =>
    intro path
    have hrun : Mentions (classifyItems s path items.length 0 items) fun _ => True :=
      mentions_classifyItems items.length fun _ w hw => ih w (List.mem_of_getElem? hw) _
    rcases items?_eq_some_iff.mp hitems with rfl | rfl <;>
    · rw [classifyAt]
      exact (mentions_reportEmpty items trivial).bind fun _ _ => hrun.bind fun _ _ => .ends _
  | object v entries hentries ih =>
    intro path
    obtain rfl := entries?_eq_some_iff.mp hentries
    rw [classifyAt]
    exact (mentions_classifyEntries fun key w hw => ih key w hw _).bind fun _ _ => .ends _
  | leaf v hitems hentries =>
    intro path
    rw [classifyAt_of_leaf hitems hentries]
    exact mentions_classifyLeaf v trivial

theorem eq_emptyArray_of_mem_classify {v : Value} {e : Event} (he : e ∈ (v.classify s).events) :
    ∃ path, e = .emptyArray path := by
  obtain ⟨path, -, rfl⟩ := (mentions_paths v []).reports e he
  exact ⟨path.write, rfl⟩

end Value

namespace Document

variable {document v : Value} {s : Strategy} {t : Shape}

/-! ## Reading -/

/-- What reading reports: invalid input by the failure that it ends with, and nothing at all in any
other case. -/
inductive ReportsItself : Logged Value → Prop
  | value (v : Value) : ReportsItself (.done v)
  | invalidInput (reason : Text) (place : Option Place) : ReportsItself
      ⟨[.invalidInput reason place], .error (.invalidInput reason place)⟩
  | other {f : Failure} (hf : ∀ reason place, f ≠ .invalidInput reason place) :
      ReportsItself (.fail f)

theorem reportsItself_ofDecoded (t : Text) (r : Except Json.Flaw Value) :
    ReportsItself (ofDecoded t r) := by
  cases r with
  | ok v => exact .value v
  | error flaw =>
    cases flaw with
    | malformed reason rest => exact .invalidInput _ _
    | constant name => exact .invalidInput _ _
    | longInteger digits => exact .other nofun

theorem reportsItself_ofBytes (bytes : List UInt8) : ReportsItself (ofBytes bytes) := by
  unfold ofBytes
  split
  · exact reportsItself_ofDecoded _ _
  · exact .invalidInput _ _

theorem reportsItself_ofBuffer (bytes : List UInt8) : ReportsItself (ofBuffer bytes) := by
  unfold ofBuffer
  split
  · exact reportsItself_ofDecoded _ _
  · exact .other nofun

/-- **Reading reports** what it ends with, in whatever form a document is given. -/
theorem reportsItself_load (document : Value) : ReportsItself (load document) := by
  unfold load
  split
  · exact reportsItself_ofDecoded _ _
  · exact reportsItself_ofBytes _
  · exact reportsItself_ofBuffer _
  · exact .other nofun

namespace ReportsItself

variable {run : Logged Value}

theorem eq_done (hrun : ReportsItself run) (h : run.outcome = .ok v) : run = .done v := by
  cases hrun with
  | value w => rw [Except.ok.inj h]
  | invalidInput reason place => cases h
  | other hf => cases h

theorem events_of_invalidInput {reason : Text} {place : Option Place} (hrun : ReportsItself run)
    (h : run.outcome = .error (.invalidInput reason place)) :
    run.events = [.invalidInput reason place] := by
  cases hrun with
  | value w => cases h
  | invalidInput reason' place' =>
    obtain ⟨rfl, rfl⟩ := Failure.invalidInput.inj (Except.error.inj h)
    rfl
  | other hf => exact absurd (Except.error.inj h) (hf reason place)

/-- No shape is reported while reading. -/
theorem inferred_not_mem (hrun : ReportsItself run) (s : Strategy) : .inferred s ∉ run.events := by
  cases hrun with
  | value w => exact List.not_mem_nil
  | invalidInput reason place => exact fun h => Event.noConfusion (List.mem_singleton.mp h)
  | other hf => exact List.not_mem_nil

end ReportsItself

theorem load_of_ok (h : (load document).outcome = .ok v) : load document = .done v :=
  (reportsItself_load document).eq_done h

/-! ## Reading and classifying -/

/-- A strategy that is none is refused before the document is looked at. -/
theorem infer_of_refused {strategy : Value} {f : Failure}
    (h : Strategy.ofValue strategy = .error f) (document : Value) :
    infer document strategy = .fail f := by
  show (Logged.ofExcept (Strategy.ofValue strategy)).andThen _ = _
  rw [h]
  rfl

theorem infer_eq_inferWith {strategy : Value} (h : Strategy.ofValue strategy = .ok s) :
    infer document strategy = inferWith s document := by
  show (Logged.ofExcept (Strategy.ofValue strategy)).andThen _ = _
  rw [h]
  rfl

/-- A run ends with invalid input as soon as reading does. -/
theorem inferWith_of_invalidInput {reason : Text} {place : Option Place}
    (h : (load document).outcome = .error (.invalidInput reason place)) :
    (inferWith s document).outcome = .error (.invalidInput reason place) ∧
      (inferWith s document).events = [.invalidInput reason place] := by
  rw [inferWith, Logged.outcome_bind_of_error h, Logged.events_bind_of_error h,
    (reportsItself_load document).events_of_invalidInput h]
  exact ⟨rfl, rfl⟩

/-- **A run that returns** reports what classification reports, and then that a shape was
inferred. -/
theorem events_inferWith (hload : (load document).outcome = .ok v)
    (hclassify : (v.classify s).outcome = .ok t) :
    (inferWith s document).events = (v.classify s).events ++ [.inferred s] := by
  rw [inferWith, Logged.events_bind_of_ok hload, Logged.events_bind_of_ok hclassify,
    load_of_ok hload]
  rfl

/-- A run that reports a shape returns one: whichever step had failed, that report comes later. -/
theorem returns_of_inferred_mem {s' : Strategy} (h : .inferred s' ∈ (inferWith s document).events) :
    ∃ t, (inferWith s document).outcome = .ok t := by
  -- a step that fails is the last one, and neither reading nor classifying has such a report
  cases hload : (load document).outcome with
  | error f =>
    rw [inferWith, Logged.events_bind_of_error hload] at h
    exact absurd h ((reportsItself_load document).inferred_not_mem s')
  | ok v =>
    cases hclassify : (v.classify s).outcome with
    | error f =>
      rw [inferWith, Logged.events_bind_of_ok hload, Logged.events_bind_of_error hclassify,
        load_of_ok hload] at h
      obtain ⟨path, heq⟩ := Value.eq_emptyArray_of_mem_classify h
      cases heq
    | ok t =>
      refine ⟨t, ?_⟩
      rw [inferWith, Logged.outcome_bind_of_ok hload, Logged.outcome_bind_of_ok hclassify]
      rfl

/-- A shape is reported exactly if one is returned. -/
theorem reports_shape_iff (document strategy : Value) :
    (∃ e ∈ (infer document strategy).events, e.name = "type_inferred") ↔
      ∃ t, (infer document strategy).outcome = .ok t := by
  constructor
  · rintro ⟨e, he, hname⟩
    obtain ⟨s', rfl⟩ := Event.name_eq_inferred_iff.mp hname
    cases hstrategy : Strategy.ofValue strategy with
    | error f =>
      rw [infer_of_refused hstrategy] at he
      cases he
    | ok s =>
      rw [infer_eq_inferWith hstrategy] at he ⊢
      exact returns_of_inferred_mem he
  · rintro ⟨t, ht⟩
    obtain ⟨s, hstrategy, h⟩ := Logged.bind_ok_iff.mp ht
    obtain ⟨v, hload, hclassify⟩ := classify_of_inferWith h
    refine ⟨.inferred s, ?_, rfl⟩
    rw [infer_eq_inferWith hstrategy, events_inferWith hload hclassify]
    exact List.mem_append_right _ (List.mem_singleton_self _)

/-- **Inference reports in order.** A strategy that is none is refused before anything is reported,
whatever the document is. With a strategy, invalid input is reported once, with reason and place of
the failure. A run that returns reports the empty arrays that classification reports, in that order,
and then that a shape was inferred with this strategy; no other run reports that. -/
theorem inference_reports_in_order (document strategy : Value) :
    (∀ f, Strategy.ofValue strategy = .error f →
      f.isValueError = true ∧ infer document strategy = .fail f) ∧
    (∀ s, Strategy.ofValue strategy = .ok s →
      (∀ reason place, (load document).outcome = .error (.invalidInput reason place) →
        (infer document strategy).outcome = .error (.invalidInput reason place) ∧
        ∃ e, (infer document strategy).events = [e] ∧ e.IsReportOf reason place) ∧
      ∀ t, (infer document strategy).outcome = .ok t →
        ∃ v e, load document = .done v ∧ (v.classify s).outcome = .ok t ∧
          (infer document strategy).events = (v.classify s).events ++ [e] ∧ e.IsResultOf s ∧
          ∀ reported ∈ (v.classify s).events, reported.name = "empty_array_found") ∧
    ((∃ e ∈ (infer document strategy).events, e.name = "type_inferred") ↔
      ∃ t, (infer document strategy).outcome = .ok t) := by
  refine ⟨fun f hf => ?_, fun s hs => ?_, reports_shape_iff document strategy⟩
  · exact ⟨Strategy.isValueError_of_ofValue hf, infer_of_refused hf document⟩
  rw [infer_eq_inferWith hs]
  constructor
  · intro reason place h
    obtain ⟨houtcome, hevents⟩ := inferWith_of_invalidInput (s := s) h
    exact ⟨houtcome, _, hevents, Event.isReportOf_invalidInput reason place⟩
  · intro t h
    obtain ⟨v, hload, hclassify⟩ := classify_of_inferWith h
    refine ⟨v, .inferred s, load_of_ok hload, hclassify, events_inferWith hload hclassify,
      ⟨rfl, rfl⟩, fun reported hmem => ?_⟩
    obtain ⟨path, rfl⟩ := Value.eq_emptyArray_of_mem_classify hmem
    rfl

theorem inference_reports_in_order_of_three_requests :
    Strategy.ofValue (.text "last") = .error (.unknownStrategy "'last'") ∧
    infer (.text "[") (.text "last") = .fail (.unknownStrategy "'last'") ∧
    (load (.text "[\n1,")).outcome
      = .error (.invalidInput "Expecting value" (some ⟨2, 3⟩)) ∧
    (∃ e, (infer (.text "[\n1,") (.text "first")).events = [e] ∧
      e.IsReportOf "Expecting value" (some ⟨2, 3⟩)) ∧
    (infer (.text "[[]]") (.text "first")).outcome = .ok (.arrayOf (.arrayOf .empty)) ∧
    (∃ v e, load (.text "[[]]") = .done v ∧
      (infer (.text "[[]]") (.text "first")).events = (v.classify .first).events ++ [e] ∧
      e.IsResultOf .first) ∧
    ∃ e ∈ (infer (.text "[[]]") (.text "first")).events, e.name = "type_inferred" := by
  have hrefused : Strategy.ofValue (.text "last") = .error (.unknownStrategy "'last'") := by
    decide +kernel
  have hfirst : Strategy.ofValue (.text "first") = .ok .first := by decide
  have hinvalid : (load (.text "[\n1,")).outcome
      = .error (.invalidInput "Expecting value" (some ⟨2, 3⟩)) := by rfl
  have hinfer : (infer (.text "[[]]") (.text "first")).outcome
      = .ok (.arrayOf (.arrayOf .empty)) := by decide +kernel
  obtain ⟨hstrategy, -, -⟩ := inference_reports_in_order (.text "[") (.text "last")
  obtain ⟨-, hreading, -⟩ := inference_reports_in_order (.text "[\n1,") (.text "first")
  obtain ⟨-, hresult, hreturns⟩ := inference_reports_in_order (.text "[[]]") (.text "first")
  obtain ⟨v, e, hload, -, hevents, he, -⟩ := (hresult _ hfirst).2 _ hinfer
  exact ⟨hrefused, (hstrategy _ hrefused).2, hinvalid, ((hreading _ hfirst).1 _ _ hinvalid).2,
    hinfer, ⟨v, e, hload, hevents, he⟩, hreturns.mpr ⟨_, hinfer⟩⟩

end Document

end ShapeInference
