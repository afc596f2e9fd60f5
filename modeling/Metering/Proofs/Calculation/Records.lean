import Mathlib.Data.List.Induction
import Metering.Calculation.Run

/-! # Histories of records

A record is told what became of its calculation, and it may be told more than once.  A completion
writes the output and a failure adds an issue, each on top of what has been written before.  So a
record shows its last event in its status and its instant, its last completion in its output and
all its failures in its issues, and these agree unless completions and failures have been mixed.

* `Record.Event`, `Record.afterAll` — what a record is told, and the record after some events;
* `Record.afterAll_pending` — all that a record holds after its events;
* `Record.Coherent` — output, issues and instant agree with the status;
* `Record.coherent_iff_unmixed` — when the record of a request is coherent;
* `Store.calculate_coherent` — the record of a whole calculation is.
-/

namespace Metering

open Time (Instant)

namespace Record

/-! ## Events -/

/-- What a record is told about its calculation, and when. -/
inductive Event where
  | completed (outputSeriesId : String) (instant : Instant)
  | failed (e : Error) (instant : Instant)

namespace Event

def status : Event → Status
  | completed .. => .completed
  | failed .. => .failed

def instant : Event → Instant
  | completed _ instant => instant
  | failed _ instant => instant

def outputSeriesId? : Event → Option String
  | completed id _ => some id
  | failed .. => none

def issue? : Event → Option Issue
  | completed .. => none
  | failed e _ => some (Issue.of e)

@[simp]
theorem isSome_outputSeriesId?_iff {event : Event} :
    event.outputSeriesId?.isSome = true ↔ event.status = .completed := by
  cases event with
  | completed => exact iff_of_true rfl rfl
  | failed => exact iff_of_false nofun nofun

@[simp]
theorem isSome_issue?_iff {event : Event} :
    event.issue?.isSome = true ↔ event.status = .failed := by
  cases event with
  | completed => exact iff_of_false nofun nofun
  | failed => exact iff_of_true rfl rfl

theorem status_cases (event : Event) : event.status = .completed ∨ event.status = .failed := by
  cases event with
  | completed => exact .inl rfl
  | failed => exact .inr rfl

end Event

def after (record : Record) : Event → Record
  | .completed id instant => record.complete id instant
  | .failed e instant => record.fail e instant

def afterAll (record : Record) (events : List Event) : Record :=
  events.foldl after record

theorem afterAll_concat (record : Record) (events : List Event) (event : Event) :
    record.afterAll (events ++ [event]) = (record.afterAll events).after event := by
  rw [afterAll, List.foldl_append]
  rfl

/-! ## What a record holds -/

def ofEvents (request : Request) (accepted : Instant) (events : List Event) : Record where
  calculationId := request.calculationId
  formulaId := request.formulaId
  status := (events.getLast?.map Event.status).getD .pending
  acceptedAt := accepted
  completedAt := events.getLast?.map Event.instant
  outputSeriesId := (events.filterMap Event.outputSeriesId?).getLast?
  issues := events.filterMap Event.issue?

section Events

variable (request : Request) (accepted : Instant)

theorem after_ofEvents (events : List Event) (event : Event) :
    (ofEvents request accepted events).after event =
      ofEvents request accepted (events ++ [event]) := by
  cases event with
  | completed =>
    simp [ofEvents, after, complete, Event.status, Event.instant, Event.outputSeriesId?,
      Event.issue?]
  | failed =>
    simp [ofEvents, after, fail, Event.status, Event.instant, Event.outputSeriesId?,
      Event.issue?]

/-- Status and instant are those of the last event, the output is that of the last completion, and
the issues are those of all failures in order. -/
theorem afterAll_pending (events : List Event) :
    (pending request accepted).afterAll events = ofEvents request accepted events := by
  induction events using List.reverseRecOn with
  | nil => rfl
  | append_singleton events event ih => rw [afterAll_concat, ih, after_ofEvents]

/-! ### Single fields -/

theorem isSome_output_ofEvents_iff (events : List Event) :
    (ofEvents request accepted events).outputSeriesId.isSome ↔
      ∃ event ∈ events, event.status = .completed := by
  simp [ofEvents]

theorem issues_ofEvents_ne_nil_iff (events : List Event) :
    (ofEvents request accepted events).issues ≠ [] ↔
      ∃ event ∈ events, event.status = .failed := by
  simp [ofEvents, List.filterMap_eq_nil_iff, Option.ne_none_iff_isSome]

theorem status_ofEvents {events : List Event} {last : Event}
    (ends : events.getLast? = some last) :
    (ofEvents request accepted events).status = last.status := by
  simp [ofEvents, ends]

theorem finished_ofEvents_iff (events : List Event) :
    (ofEvents request accepted events).completedAt.isSome ↔
      (ofEvents request accepted events).status ≠ .pending := by
  cases ends : events.getLast? with
  | none => simp [ofEvents, ends]
  | some last =>
    rw [status_ofEvents request accepted ends]
    refine iff_of_true (by simp [ofEvents, ends]) ?_
    rcases last.status_cases with kind | kind <;> simp [kind]

theorem exists_event_of_status {events : List Event} {kind : Status} (ended : kind ≠ .pending)
    (status : (ofEvents request accepted events).status = kind) :
    ∃ event ∈ events, event.status = kind := by
  cases ends : events.getLast? with
  | none =>
    simp only [ofEvents, ends, Option.map_none, Option.getD_none] at status
    exact absurd status.symm ended
  | some last =>
    rw [status_ofEvents request accepted ends] at status
    exact ⟨last, List.mem_of_getLast? ends, status⟩

/-! ## Coherence -/

/-- The record has an output exactly if it is completed, issues exactly if it has failed, and an
instant of its end exactly if it is not pending. -/
structure Coherent (record : Record) : Prop where
  output : record.outputSeriesId.isSome ↔ record.status = .completed
  issues : record.issues ≠ [] ↔ record.status = .failed
  finished : record.completedAt.isSome ↔ record.status ≠ .pending

theorem Coherent.status_eq {events : List Event} {event : Event}
    (coherent : (ofEvents request accepted events).Coherent) (member : event ∈ events) :
    (ofEvents request accepted events).status = event.status := by
  -- an event of the other kind would have left its output or its issue
  rcases event.status_cases with kind | kind
  · rw [kind]
    exact coherent.output.1 ((isSome_output_ofEvents_iff ..).2 ⟨event, member, kind⟩)
  · rw [kind]
    exact coherent.issues.1 ((issues_ofEvents_ne_nil_iff ..).2 ⟨event, member, kind⟩)

/-- Events of one kind leave the status that any of them reports. -/
theorem exists_event_iff_of_unmixed {events : List Event} {kind : Status} (ended : kind ≠ .pending)
    (unmixed : ∀ a ∈ events, ∀ b ∈ events, a.status = b.status) :
    (∃ event ∈ events, event.status = kind) ↔ (ofEvents request accepted events).status = kind := by
  refine ⟨?_, exists_event_of_status request accepted ended⟩
  rintro ⟨event, member, rfl⟩
  cases ends : events.getLast? with
  | none =>
    rw [List.getLast?_eq_none_iff] at ends
    subst ends
    cases member
  | some last =>
    rw [status_ofEvents request accepted ends]
    exact unmixed last (List.mem_of_getLast? ends) event member

theorem coherent_of_unmixed {events : List Event}
    (unmixed : ∀ a ∈ events, ∀ b ∈ events, a.status = b.status) :
    (ofEvents request accepted events).Coherent where
  output := (isSome_output_ofEvents_iff ..).trans
    (exists_event_iff_of_unmixed request accepted nofun unmixed)
  issues := (issues_ofEvents_ne_nil_iff ..).trans
    (exists_event_iff_of_unmixed request accepted nofun unmixed)
  finished := finished_ofEvents_iff ..

/-- A record carries an instant of its end exactly if it is no longer pending, an output if it is
completed and an issue if it has failed, whatever has been reported.  Output and issues tell
completed records from failed ones exactly if no completion has been mixed with a failure: what the
one leaves on the record, the other one does not take away. -/
theorem coherent_iff_unmixed (events : List Event) :
    let record := (pending request accepted).afterAll events
    record = ofEvents request accepted events ∧
    (record.completedAt.isSome ↔ record.status ≠ .pending) ∧
    (record.status = .completed → record.outputSeriesId.isSome) ∧
    (record.status = .failed → record.issues ≠ []) ∧
    (record.Coherent ↔ ∀ a ∈ events, ∀ b ∈ events, a.status = b.status) := by
  intro record
  have holds : record = ofEvents request accepted events := afterAll_pending ..
  rw [holds]
  refine ⟨rfl, finished_ofEvents_iff .., fun completed => ?_, fun failed => ?_,
    fun coherent a amember b bmember => ?_, coherent_of_unmixed request accepted⟩
  · rw [isSome_output_ofEvents_iff]
    exact exists_event_of_status request accepted nofun completed
  · rw [issues_ofEvents_ne_nil_iff]
    exact exists_event_of_status request accepted nofun failed
  · rw [← coherent.status_eq request accepted amember, coherent.status_eq request accepted bmember]

end Events

/-- A calculation that has been completed and then fails keeps its output, and one that has failed
and is then completed keeps its issue. -/
theorem mixed_events_incoherent :
    let request : Request := ⟨"C", "F", [("a", "TS-A")], none, none, none⟩
    let completed : Event := .completed "TS-1" .epoch
    let failed : Event := .failed (.invalidQuantity "x") .epoch
    ¬ ((pending request .epoch).afterAll [completed, failed]).Coherent ∧
      ¬ ((pending request .epoch).afterAll [failed, completed]).Coherent := by
  intro request completed failed
  refine ⟨fun coherent => ?_, fun coherent => ?_⟩
  · exact absurd (coherent.output.1 rfl) (by decide)
  · exact absurd (coherent.issues.1 (by decide)) (by decide)

end Record

/-- The record of a whole calculation is told once, so it is coherent. -/
theorem Store.calculate_coherent (s : Store) (t : FileTree) (r : Request)
    (options : ComputationOptions) (clock : Clock) (cancel : Nat → Bool) :
    (s.calculate t r options clock cancel).1.record.Coherent := by
  have once (event : Record.Event) : ((Record.pending r clock.accepted).after event).Coherent := by
    change ((Record.pending r clock.accepted).afterAll [event]).Coherent
    rw [Record.afterAll_pending]
    exact Record.coherent_of_unmixed r clock.accepted (by simp)
  rw [calculate]
  split
  · next output _ _ => exact once (.completed output.id clock.finished)
  · next e _ _ => exact once (.failed e clock.finished)

end Metering
