import Mathlib.Logic.Relation
import Mathlib.Tactic.Common
import Metalink.Proofs.Reader.Composition
import Metalink.Proofs.Reader.Lookup

/-!
# The order of attributes

The order in which an element has its attributes does not matter to a reader, nor do attributes that
no element looks up.  The argument goes through tidy attributes, which are what can be found, in an
order of their own: tidying all attributes of a run leaves the run as it was, and lists that differ
in nothing but their order and such attributes are tidied to the same list.

Main results:

- `findAttribute_tidyAttributes`: tidying changes nothing that is looked up.
- `step_tidy`, `run_tidy`, `reactions_tidy`: a reader reacts to tidy events as it does to events.
- `EventsEdit.map_tidy_eq`: one edit of the attributes of an element, as far as it shows.
- `attributes_are_found_by_name`: which value is found by a name, and that rearranged attributes do
  not show in a run.
-/

namespace Metalink

/-! ## Tidy attributes -/

/-- What can be found of attributes, in a fixed order. -/
def tidyAttributes (attributes : List String) : List String :=
  attributeNames.flatMap fun name =>
    (findAttribute name attributes).elim [] fun value => [name, value]

/-- In a list that gives a value to some names, these values are found. -/
theorem findAttribute_flatMap (give : String → Option String) (names : List String)
    (name : String) :
    findAttribute name (names.flatMap fun key => (give key).elim [] fun value => [key, value]) =
      if name ∈ names then give name else none := by
  induction names with
  | nil => rfl
  | cons key names ih =>
    rw [List.flatMap_cons]
    by_cases hkey : key = name
    · subst hkey
      cases hgive : give key with
      | none => simp [ih, hgive]
      | some value => simp [findAttribute]
    · have hmem : name ∈ key :: names ↔ name ∈ names := by simp [Ne.symm hkey]
      cases give key with
      | none => simp [ih, hmem]
      | some value => simp [findAttribute, hkey, ih, hmem]

/-- Tidying changes nothing that elements look up. -/
theorem findAttribute_tidyAttributes {name : String} (h : name ∈ attributeNames)
    (attributes : List String) :
    findAttribute name (tidyAttributes attributes) = findAttribute name attributes := by
  rw [tidyAttributes, findAttribute_flatMap, if_pos h]

/-- Attributes of which the same can be found are tidied to the same list. -/
theorem tidyAttributes_congr {attributes other : List String}
    (h : ∀ name ∈ attributeNames, findAttribute name attributes = findAttribute name other) :
    tidyAttributes attributes = tidyAttributes other :=
  List.flatMap_congr fun name hname => by rw [h name hname]

/-! ## Tidy readers -/

/-- An event with tidy attributes. -/
def Event.tidy : Event → Event
  | .opened name attributes => .opened name (tidyAttributes attributes)
  | event => event

/-- An open element with tidy attributes. -/
def Frame.tidy (frame : Frame) : Frame :=
  { frame with attributes := tidyAttributes frame.attributes }

/-- An offer to an element with tidy attributes. -/
def Offer.tidy (offer : Offer) : Offer :=
  { offer with owner := { offer.owner with attributes := tidyAttributes offer.owner.attributes } }

/-- A reader in which all open elements have tidy attributes, and all else is as it was. -/
def Reader.tidy (reader : Reader) : Reader :=
  { reader with frames := reader.frames.map Frame.tidy }

/-- A reaction after which all open elements have tidy attributes, and all else is as it was. -/
def Reaction.tidy (reaction : Reaction) : Reaction :=
  { reaction with reader := reaction.reader.tidy }

/-- Nothing but attributes of open elements is lost by tidying. -/
theorem Reaction.same_of_tidy_eq {first second : Reaction} (h : second.tidy = first.tidy) :
    second.reader.document = first.reader.document ∧ second.reader.fault = first.reader.fault ∧
      second.log = first.log ∧ second.escape = first.escape := by
  simp only [tidy, Reader.tidy, Reaction.mk.injEq, Reader.mk.injEq] at h
  obtain ⟨⟨-, hdocument, -, hfault⟩, hlog, hescape⟩ := h
  exact ⟨hdocument, hfault, hlog, hescape⟩

namespace Event

/-- With tidy attributes the open elements move as before. -/
theorem frames_tidy (event : Event) (frames : List Frame) :
    event.tidy.frames (frames.map Frame.tidy) = (event.frames frames).map Frame.tidy := by
  cases event with
  | opened name attributes => rfl
  | text s | closed name => cases frames <;> rfl

theorem offer?_tidy (event : Event) (frames : List Frame) :
    event.tidy.offer? (frames.map Frame.tidy) = (event.offer? frames).map Offer.tidy := by
  cases event with
  | opened name attributes => rfl
  | text s => cases frames <;> rfl
  | closed name =>
    cases frames with
    | nil => rfl
    | cons frame rest =>
      rcases frame with ⟨name, attributes, hadText⟩
      cases hadText <;> rfl

end Event

/-- An offer with tidy attributes is taken as before. -/
theorem Offer.take_tidy (offer : Offer) (expected : String) (doc : Document) :
    offer.tidy.take expected doc = offer.take expected doc := by
  have hfound : ∀ name ∈ attributeNames,
      findAttribute name (tidyAttributes offer.owner.attributes) =
        findAttribute name offer.owner.attributes :=
    fun name hname => findAttribute_tidyAttributes hname _
  simp only [Offer.take, Offer.tidy, Role.take_congr hfound]

/-- What is reported of an element is its name. -/
theorem Offer.report_tidy (offer : Offer) (trouble : Trouble) :
    offer.tidy.report trouble = offer.report trouble := by
  cases trouble <;> rfl

namespace Reader

theorem accept_tidy (reader : Reader) (offer : Offer) :
    reader.tidy.accept offer.tidy = (reader.accept offer).tidy := by
  simp only [accept, tidy, Offer.take_tidy, Offer.report_tidy]
  rcases offer.take reader.expected reader.document with ⟨result, log⟩
  cases result <;> rfl

/-- A tidy reader reacts to a tidy event as the reader does to the event. -/
theorem step_tidy (reader : Reader) (event : Event) :
    reader.tidy.step event.tidy = (reader.step event).tidy := by
  by_cases hfault : reader.fault = none
  · have hfault' : reader.tidy.fault = none := hfault
    have hmoved : { reader.tidy with frames := event.tidy.frames reader.tidy.frames } =
        tidy { reader with frames := event.frames reader.frames } := by
      simp only [tidy, Event.frames_tidy]
    have hoffer : event.tidy.offer? reader.tidy.frames =
        (event.offer? reader.frames).map Offer.tidy := Event.offer?_tidy event reader.frames
    rw [step_eq_accept hfault', step_eq_accept hfault, hoffer, hmoved]
    cases event.offer? reader.frames with
    | none => rfl
    | some offer => exact accept_tidy _ offer
  · -- At fault both stay as they are.
    have hsome : reader.fault.isSome := Option.isSome_iff_ne_none.2 hfault
    have hsome' : reader.tidy.fault.isSome := hsome
    rw [step_of_fault hsome, step_of_fault hsome']
    rfl

/-- So it runs, up to a numeral that is too long. -/
theorem run_tidy (reader : Reader) (events : List Event) :
    reader.tidy.run (events.map Event.tidy) = (reader.run events).tidy := by
  induction events generalizing reader with
  | nil => rfl
  | cons event rest ih =>
    rw [List.map_cons, run, run, step_tidy]
    rcases reader.step event with ⟨next, log, escape⟩
    cases escape with
    | some digits => rfl
    | none => simp only [Reaction.tidy, ih next]

/-- So it reacts to events that are delivered one by one. -/
theorem reactions_tidy (reader : Reader) (events : List Event) :
    reader.tidy.reactions (events.map Event.tidy) =
      (reader.reactions events).map Reaction.tidy := by
  induction events generalizing reader with
  | nil => rfl
  | cons event rest ih =>
    rw [List.map_cons, reactions, reactions, List.map_cons, step_tidy]
    exact congrArg ((reader.step event).tidy :: ·) (ih (reader.step event).reader)

end Reader

/-! ## Edits -/

/-- One edit of the attributes of an element: the pairs change places, or a pair with a name that no
element looks up is put in anywhere, or is taken away. -/
inductive AttributesEdit : List String → List String → Prop where
  | permute {attributes other : List String}
      (h : (attributePairs attributes).Perm (attributePairs other)) :
      AttributesEdit attributes other
  | insert {attributes other : List String} (front : List (String × String)) (name value : String)
      (back : List (String × String)) (hname : name ∉ attributeNames)
      (hattributes : attributePairs attributes = front ++ back)
      (hother : attributePairs other = front ++ (name, value) :: back) :
      AttributesEdit attributes other
  | delete {attributes other : List String} (front : List (String × String)) (name value : String)
      (back : List (String × String)) (hname : name ∉ attributeNames)
      (hattributes : attributePairs attributes = front ++ (name, value) :: back)
      (hother : attributePairs other = front ++ back) :
      AttributesEdit attributes other

/-- One such edit, of one of the elements that events open. -/
inductive EventsEdit : List Event → List Event → Prop where
  | edit (front : List Event) (name : String) {attributes other : List String} (back : List Event)
      (h : AttributesEdit attributes other) :
      EventsEdit (front ++ .opened name attributes :: back) (front ++ .opened name other :: back)

/-- Every element that events open has pairs with distinct names. -/
def NamesDistinct (events : List Event) : Prop :=
  ∀ name attributes, .opened name attributes ∈ events →
    ((attributePairs attributes).map Prod.fst).Nodup

/-- Every element that events open has distinct names among those that elements look up. -/
def HeededDistinct (events : List Event) : Prop :=
  ∀ name attributes, .opened name attributes ∈ events →
    ((heeded attributes).map Prod.fst).Nodup

/-- Where no name comes twice, none that is heeded does. -/
theorem NamesDistinct.heededDistinct {events : List Event} (h : NamesDistinct events) :
    HeededDistinct events := fun name attributes hopened =>
  (h name attributes hopened).sublist (List.filter_sublist.map Prod.fst)

/-- A pair with a name that no element looks up may be put in anywhere. -/
theorem heeded_eq_of_insert {attributes other : List String} {front back : List (String × String)}
    {name value : String} (hname : name ∉ attributeNames)
    (hattributes : attributePairs attributes = front ++ back)
    (hother : attributePairs other = front ++ (name, value) :: back) :
    heeded other = heeded attributes := by
  unfold heeded
  rw [hattributes, hother, List.filter_append, List.filter_append,
    List.filter_cons_of_neg (by simpa using hname)]

/-- An edit leaves the pairs with names that elements look up, but for their order. -/
theorem AttributesEdit.heeded_perm {attributes other : List String}
    (h : AttributesEdit attributes other) : (heeded attributes).Perm (heeded other) := by
  cases h with
  | permute h => exact h.filter _
  | insert front name value back hname hattributes hother =>
    exact .of_eq (heeded_eq_of_insert hname hattributes hother).symm
  | delete front name value back hname hattributes hother =>
    exact .of_eq (heeded_eq_of_insert hname hother hattributes)

namespace EventsEdit

variable {events other : List Event}

/-- Names that elements look up stay distinct. -/
theorem heededDistinct (h : EventsEdit events other) (hdistinct : HeededDistinct events) :
    HeededDistinct other := by
  obtain ⟨front, name, back, hedit⟩ := h
  intro key attributes hopened
  simp only [List.mem_append, List.mem_cons, Event.opened.injEq] at hopened
  rcases hopened with hfront | ⟨-, rfl⟩ | hback
  · exact hdistinct key attributes (by simp [hfront])
  · have hold := hdistinct name _ (List.mem_append_right front List.mem_cons_self)
    exact (hedit.heeded_perm.map Prod.fst).nodup_iff.1 hold
  · exact hdistinct key attributes (by simp [hback])

/-- Where these names are distinct, an edit does not show in tidy events. -/
theorem map_tidy_eq (h : EventsEdit events other) (hdistinct : HeededDistinct events) :
    other.map Event.tidy = events.map Event.tidy := by
  obtain ⟨front, name, back, hedit⟩ := h
  have hnames := hdistinct name _ (List.mem_append_right front List.mem_cons_self)
  have htidy := tidyAttributes_congr fun key hkey =>
    findAttribute_eq_of_heeded_perm hnames hedit.heeded_perm hkey
  simp only [List.map_append, List.map_cons, Event.tidy, htidy]

end EventsEdit

/-- Nor do any number of edits. -/
theorem map_tidy_eq_of_edits {events other : List Event} (hdistinct : HeededDistinct events)
    (hedits : Relation.ReflTransGen EventsEdit events other) :
    other.map Event.tidy = events.map Event.tidy ∧ HeededDistinct other := by
  induction hedits with
  | refl => exact ⟨rfl, hdistinct⟩
  | tail _ hedit ih =>
    obtain ⟨htidy, hkept⟩ := ih
    exact ⟨(hedit.map_tidy_eq hkept).trans htidy, hedit.heededDistinct hkept⟩

/-! ## Lookups and runs -/

/-- What is found by a name in a list of attributes.  A value is found exactly if it belongs to
the first pair with the name, and nothing is found exactly if there is no such pair; so a name is
not found that stands only at odd places, or at the last one with no value after it. -/
structure FindsFirstPair (name : String) (attributes : List String) : Prop where
  found : ∀ value, findAttribute name attributes = some value ↔
    ∃ i, attributes[2 * i]? = some name ∧ attributes[2 * i + 1]? = some value ∧
      ∀ j < i, attributes[2 * j]? ≠ some name
  missing : findAttribute name attributes = none ↔
    ∀ i value, attributes[2 * i]? = some name → attributes[2 * i + 1]? ≠ some value
  misplaced : (∀ i, attributes[i]? = some name → i % 2 = 1 ∨ i + 1 = attributes.length) →
    findAttribute name attributes = none

/-- Looking up a name finds the value of the first pair with it.  So, where every element that
events open has pairs with distinct names, the pairs of any elements may change places, and pairs
with names that no element looks up may be put in and taken away: whatever a reader has read before,
it comes to the same document, the same fault and the same records, for the whole run, which a
numeral that is too long may break off, and at each event of those that are delivered one by one;
and the open elements are the same but for how their attributes are arranged. -/
theorem attributes_are_found_by_name :
    (∀ name attributes, FindsFirstPair name attributes) ∧
      ∀ (reader : Reader) (events other : List Event), NamesDistinct events →
        Relation.ReflTransGen EventsEdit events other →
        let first := reader.run events
        let second := reader.run other
        (second.reader.document = first.reader.document ∧
            second.reader.fault = first.reader.fault ∧ second.log = first.log ∧
            second.escape = first.escape) ∧
          second.tidy = first.tidy ∧
          (reader.reactions other).map Reaction.tidy =
            (reader.reactions events).map Reaction.tidy := by
  refine ⟨?_, ?_⟩
  · intro name attributes
    exact ⟨fun value => findAttribute_eq_some_iff, findAttribute_eq_none_iff,
      findAttribute_of_misplaced⟩
  · intro reader events other hdistinct hedits first second
    obtain ⟨htidy, -⟩ := map_tidy_eq_of_edits hdistinct.heededDistinct hedits
    have hrun : second.tidy = first.tidy := by
      rw [← Reader.run_tidy, ← Reader.run_tidy, htidy]
    exact ⟨Reaction.same_of_tidy_eq hrun, hrun,
      by rw [← Reader.reactions_tidy, ← Reader.reactions_tidy, htidy]⟩

/-- A mirror whose attributes change places, among others that no element looks up, is read as it
was. -/
theorem rearranged_mirror_is_read :
    let events : List Event := [.opened "url" ["type", "http", "preference", "50"],
      .text "http://a/", .closed "url"]
    let other : List Event :=
      [.opened "url" ["preference", "50", "maxconnections", "2", "type", "http"],
        .text "http://a/", .closed "url"]
    NamesDistinct events ∧ Relation.ReflTransGen EventsEdit events other ∧
      let second := (Reader.start "f.rpm").run other
      second.reader.document =
          ⟨none, none, [], [⟨"http://a/", none, some "http", none, 50⟩]⟩ ∧
        second.reader.fault = none := by
  intro events other
  have hdistinct : NamesDistinct events := by
    intro name attributes hopened
    simp only [events, List.mem_cons, Event.opened.injEq, reduceCtorEq, List.not_mem_nil,
      or_false] at hopened
    obtain ⟨-, rfl⟩ := hopened
    decide
  have hpermute : AttributesEdit ["type", "http", "preference", "50"]
      ["preference", "50", "type", "http"] := .permute (by decide)
  have hinsert : AttributesEdit ["preference", "50", "type", "http"]
      ["preference", "50", "maxconnections", "2", "type", "http"] :=
    .insert [("preference", "50")] "maxconnections" "2" [("type", "http")] (by decide) rfl rfl
  have hedits : Relation.ReflTransGen EventsEdit events other :=
    .head (.edit [] "url" _ hpermute) (.single (.edit [] "url" _ hinsert))
  obtain ⟨⟨hdocument, hfault, -, -⟩, -, -⟩ :=
    attributes_are_found_by_name.2 (Reader.start "f.rpm") events other hdistinct hedits
  have hread : ((Reader.start "f.rpm").run events).reader.document =
      ⟨none, none, [], [⟨"http://a/", none, some "http", none, 50⟩]⟩ := by decide +kernel
  have hnone : ((Reader.start "f.rpm").run events).reader.fault = none := by decide +kernel
  exact ⟨hdistinct, hedits, hdocument.trans hread, hfault.trans hnone⟩

end Metalink
