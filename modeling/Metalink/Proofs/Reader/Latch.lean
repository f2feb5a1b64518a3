import Mathlib.Tactic.Common
import Metalink.Proofs.Reader.Outcome

/-!
# The first fault

The first fault of a reader is its last state.  The event at fault takes nothing, reports
itself once and leaves the fault behind; from then on the reader answers every request,
be it an event or a whole source, by staying what it is.

Main results:

- `step_of_refuses`: all that an event does whose offer is at fault.
- `fault_afterEach_eq_none`: without a refusal there is no fault, also where failures that
  escape have been passed over.
- `first_fault_absorbs`: what the first fault leaves behind, and that it stays for every
  sequence of requests.
-/

namespace Metalink

/-! ## Refused offers -/

/-- What was noted of an element before it came to trouble: nothing, unless the type of a hash
was looked at before the record was refused. -/
def Trouble.note (attributes : List String) : Trouble → Log
  | .escape (.refused _) => (findAttribute "type" attributes).elim [] noteHashType
  | _ => []

section Take

variable {attributes : List String} {doc : Document} {trouble : Trouble}

/-- A file element that refuses its text does so whatever had been read. -/
theorem takeFile_of_error {expected : String}
    (h : (takeFile expected attributes doc).1 = .error trouble) (other : Document) :
    takeFile expected attributes other = (.error trouble, trouble.note attributes) := by
  unfold takeFile at h ⊢
  cases hname : findAttribute "name" attributes with
  | none =>
    simp only [hname, Taken.atFault] at h
    cases h
    rfl
  | some name =>
    by_cases heq : name = expected
    · simp [hname, heq] at h
    · simp only [hname, heq, ne_eq, not_false_eq_true, if_true, Taken.atFault] at h ⊢
      cases h
      rfl

theorem takeNumeral_of_error {numeral : String}
    (h : (takeNumeral numeral doc).1 = .error trouble) (other : Document) :
    takeNumeral numeral other = (.error trouble, trouble.note attributes) := by
  unfold takeNumeral at h ⊢
  by_cases hempty : numeral = ""
  · rw [if_pos hempty] at h ⊢
    cases h
    rfl
  · rw [if_neg hempty] at h ⊢
    cases hread : Text.readInteger numeral with
    | notNumeral | tooLong =>
      simp only [hread, Taken.atFault] at h
      cases h
      rfl
    | value size => simp [hread] at h

theorem takeSize_of_error {text : CodeText} (h : (takeSize text doc).1 = .error trouble)
    (other : Document) : takeSize text other = (.error trouble, trouble.note attributes) := by
  rcases text.eq_ofString_or_string?_eq_none with ⟨s, rfl⟩ | hnone
  · rw [takeSize_ofString] at h ⊢
    exact takeNumeral_of_error h other
  · rw [takeSize_of_string?_eq_none hnone] at h ⊢
    cases h
    rfl

theorem takeHash_of_error {text : CodeText}
    (h : (takeHash attributes text doc).1 = .error trouble) (other : Document) :
    takeHash attributes text other = (.error trouble, trouble.note attributes) := by
  cases htype : findAttribute "type" attributes with
  | none =>
    simp only [takeHash, htype, Taken.atFault] at h ⊢
    cases h
    rfl
  | some type =>
    rcases text.eq_ofString_or_string?_eq_none with ⟨s, rfl⟩ | hnone
    · rw [takeHash_ofString] at h ⊢
      by_cases hempty : Text.trim s = ""
      · simp only [htype, hempty, if_true, Taken.atFault] at h ⊢
        cases h
        rfl
      · simp [htype, hempty] at h
    · rw [takeHash_of_string?_eq_none hnone] at h ⊢
      simp only [htype] at h ⊢
      cases h
      simp [Trouble.note, htype]

/-- Nothing is noted of a preference that cannot be read. -/
theorem readPreference_error_note
    (h : readPreference attributes = .error trouble) : trouble.note attributes = [] := by
  unfold readPreference at h
  (repeat' split at h) <;> cases h <;> rfl

theorem takeUrl_of_error {text : CodeText}
    (h : (takeUrl attributes text doc).1 = .error trouble) (other : Document) :
    takeUrl attributes text other = (.error trouble, trouble.note attributes) := by
  rcases text.eq_ofString_or_string?_eq_none with ⟨s, rfl⟩ | hnone
  · rw [takeUrl_ofString] at h ⊢
    unfold takeAddress at h ⊢
    by_cases hshort : (Text.trim s).utf8ByteSize ≤ Mirror.minUrlBytes
    · simp [hshort] at h
    · rw [if_neg hshort] at h ⊢
      cases hpreference : readPreference attributes with
      | error found =>
        simp only [hpreference, Except.error.injEq] at h ⊢
        subst h
        rw [readPreference_error_note hpreference]
      | ok preference => simp [hpreference] at h
  · obtain ⟨fault, -, htake⟩ := takeUrl_of_string?_eq_none hnone
    rw [htake] at h ⊢
    cases h
    rfl

end Take

/-- An element that cannot take what it is offered could not take it whatever had been read, and
notes the same. -/
theorem Role.take_of_error {role : Role} {expected : String} {text : CodeText}
    {attributes : List String} {doc : Document} {trouble : Trouble}
    (h : (role.take expected attributes text doc).1 = .error trouble) (other : Document) :
    role.take expected attributes text other = (.error trouble, trouble.note attributes) := by
  cases role with
  | file => exact takeFile_of_error h other
  | size => exact takeSize_of_error h other
  | hash => exact takeHash_of_error h other
  | url => exact takeUrl_of_error h other

/-- An offer that is refused would be refused whatever had been read, with the same noted of
it. -/
theorem Offer.take_of_error {expected : String} {offer : Offer} {doc : Document}
    {trouble : Trouble} (h : (offer.take expected doc).1 = .error trouble) (other : Document) :
    offer.take expected other = (.error trouble, trouble.note offer.owner.attributes) := by
  unfold Offer.take at h ⊢
  cases hrole : Role.ofName? offer.owner.name with
  | none =>
    rw [hrole] at h
    cases h
  | some role =>
    rw [hrole] at h
    exact Role.take_of_error h other

namespace Reader

/-- The element that an event makes an offer to refuses it with a fault. -/
def Refuses (reader : Reader) (event : Event) (fault : ContentFault) : Prop :=
  ∃ offer, event.offer? reader.frames = some offer ∧
    (offer.take reader.expected reader.document).1 = .error (.fault fault)

/-- An event whose offer is refused moves the stack, reports the fault once and leaves it
behind.  The document stays as it was. -/
theorem step_of_refuses {reader : Reader} {event : Event} {fault : ContentFault}
    (hnone : reader.fault = none) (h : reader.Refuses event fault) :
    ∃ frame ∈ reader.frames.head?, reader.step event =
      ⟨{ reader with frames := event.frames reader.frames, fault := some fault },
        faultRecord frame fault, none⟩ := by
  obtain ⟨offer, hoffer, htake⟩ := h
  obtain ⟨frame, hframe, howner⟩ := Event.exists_frame_of_offer? hoffer
  refine ⟨frame, hframe, ?_⟩
  rw [step_eq_accept hnone, hoffer]
  simp only [accept, Offer.take_of_error htake reader.document, Offer.report, Trouble.fault?,
    Trouble.escape?, Trouble.note, List.nil_append, howner]
  rfl

/-- An event whose offer is not refused leaves no fault behind. -/
theorem fault_step_eq_none {reader : Reader} {event : Event} (hnone : reader.fault = none)
    (h : ∀ fault, ¬ reader.Refuses event fault) : (reader.step event).reader.fault = none := by
  rw [step_eq_accept hnone]
  cases hoffer : event.offer? reader.frames with
  | none => exact hnone
  | some offer =>
    simp only [accept]
    rcases htake : offer.take reader.expected reader.document with ⟨result, log⟩
    cases result with
    | ok document => exact hnone
    | error trouble =>
      cases trouble with
      | fault fault => exact absurd ⟨offer, hoffer, by rw [htake]⟩ (h fault)
      | escape escape => rfl

/-! ## Events one by one -/

/-- The reader after events that are delivered one by one.  An event at which a failure escapes
does not keep the next one from being delivered. -/
def afterEach (reader : Reader) (events : List Event) : Reader :=
  events.foldl (fun reader event => (reader.step event).reader) reader

/-- A reader that has refused no offer is without a fault. -/
theorem fault_afterEach_eq_none {reader : Reader} {events : List Event}
    (hnone : reader.fault = none)
    (h : ∀ first event rest fault, events = first ++ event :: rest →
      ¬ (reader.afterEach first).Refuses event fault) :
    (reader.afterEach events).fault = none := by
  induction events generalizing reader with
  | nil => exact hnone
  | cons event events ih =>
    have hstep : (reader.step event).reader.fault = none :=
      fault_step_eq_none hnone fun fault => h [] event events fault rfl
    refine ih hstep fun first next rest fault heq => ?_
    exact h (event :: first) next rest fault (congrArg (event :: ·) heq)

/-! ## Requests -/

/-- What can be asked of a reader: to react to an event, or to read a source from beginning to
end. -/
inductive Request where
  | event (event : Event)
  | source (source : Xml.Source)

/-- The reader after a request. -/
def answer (reader : Reader) : Request → Reader
  | .event event => (reader.step event).reader
  | .source source => (reader.parse source).reader

/-- The reader after requests in turn. -/
def answerAll (reader : Reader) (requests : List Request) : Reader :=
  requests.foldl answer reader

/-- A reader at fault stays as it is, whatever is asked of it. -/
theorem answerAll_of_fault {reader : Reader} {fault : ContentFault}
    (h : reader.fault = some fault) (requests : List Request) :
    reader.answerAll requests = reader := by
  have hsome : reader.fault.isSome := by rw [h]; rfl
  induction requests with
  | nil => rfl
  | cons request rest ih =>
    have hanswer : reader.answer request = reader := by
      cases request with
      | event event => rw [answer, step_of_fault hsome, still]
      | source source => exact (parse_of_fault h source).1
    rw [answerAll, List.foldl_cons, hanswer]
    exact ih

/-! ## The first fault -/

/-- The first event that is refused leaves the document as it was and the fault behind, and
reports it once.  Whatever is asked of the reader afterwards, it stays the same, and reacts
to no event; and no source is accepted any more. -/
theorem first_fault_absorbs (expected : String) (before : List Event) (event : Event)
    (fault : ContentFault)
    (hfirst : ∀ first next rest other, before = first ++ next :: rest →
      ¬ ((start expected).afterEach first).Refuses next other)
    (hrefuses : ((start expected).afterEach before).Refuses event fault) :
    let prior := (start expected).afterEach before
    let reaction := prior.step event
    (reaction.reader.document = prior.document ∧ reaction.reader.fault = some fault ∧
        reaction.escape = none ∧
        ∃ frame ∈ prior.frames.head?, reaction.log = faultRecord frame fault) ∧
      ∀ requests : List Request,
        let later := reaction.reader.answerAll requests
        later = reaction.reader ∧ (∀ next, later.step next = later.still) ∧
          ∀ source : Xml.Source,
            later.run source.tokenize.events = later.still ∧
              (later.parse source).reader = later ∧
              (later.parse source).outcome =
                .error (source.tokenize.verdict.failure?.getD (.error (.content fault))) := by
  intro prior reaction
  have hprior : prior.fault = none := fault_afterEach_eq_none rfl hfirst
  obtain ⟨frame, hframe, hreaction⟩ := step_of_refuses hprior hrefuses
  change reaction = _ at hreaction
  have hfault : reaction.reader.fault = some fault := by rw [hreaction]
  have hsome : reaction.reader.fault.isSome := by rw [hfault]; rfl
  refine ⟨⟨by rw [hreaction], hfault, by rw [hreaction], frame, hframe, by rw [hreaction]⟩, ?_⟩
  intro requests later
  have hlater : later = reaction.reader := answerAll_of_fault hfault requests
  rw [hlater]
  exact ⟨rfl, step_of_fault hsome,
    fun source => ⟨run_of_fault hsome _, parse_of_fault hfault source⟩⟩

/-- A hash element without a type refuses its text, and with that the reader is at the end
of what it reads. -/
theorem hash_without_type_absorbs :
    let prior := (start "f.rpm").afterEach [.opened "file" ["name", "f.rpm"], .opened "hash" []]
    let reaction := prior.step (.ofString "0a")
    prior.Refuses (.ofString "0a") .missingHashType ∧
      reaction.reader.document = prior.document ∧
      reaction.reader.fault = some .missingHashType ∧
      ∀ requests source, reaction.reader.answerAll requests = reaction.reader ∧
        ((reaction.reader.answerAll requests).parse source).outcome =
          .error (source.tokenize.verdict.failure?.getD (.error (.content .missingHashType))) := by
  intro prior reaction
  have hrefuses : prior.Refuses (.ofString "0a") .missingHashType := ⟨_, rfl, by decide⟩
  have h := first_fault_absorbs "f.rpm" [.opened "file" ["name", "f.rpm"], .opened "hash" []]
    (.ofString "0a") .missingHashType ?_ hrefuses
  · exact ⟨hrefuses, h.1.1, h.1.2.1, fun requests source =>
      ⟨(h.2 requests).1, ((h.2 requests).2.2 source).2.2⟩⟩
  · -- Opening an element offers nothing.
    rintro first next rest other hbefore ⟨offer, hoffer, -⟩
    have hnext : next ∈ first ++ next :: rest := List.mem_append_right first List.mem_cons_self
    simp only [← hbefore, List.mem_cons, List.not_mem_nil, or_false] at hnext
    rcases hnext with rfl | rfl <;> cases hoffer

end Reader

end Metalink
