import Mathlib.Tactic.Common
import Metalink.Proofs.CommandLine.Verify
import Metalink.Proofs.Reader.Elements

/-!
# Metalinks that name their file

Every file element of an accepted metalink names the file that was asked about.  Nothing
asks for there to be one, and a metalink without any is accepted for every file.

Main results:

- `filename_of_parse`: the name in an accepted document.
- `runDescribe_succeeded_iff`: the command for showing succeeds exactly if the metalink can be
  read.
- `accepted_names_iff_hasFile`: what is accepted, by reading or by a command, names the file
  exactly if it has a file element.
- `accepts_without_file`: a metalink that is accepted and names no file.
-/

namespace Metalink

/-! ## File elements -/

namespace Xml.Source

/-- A source has a file element. -/
def HasFile (source : Source) : Prop :=
  ∃ attributes, .opened "file" attributes ∈ source.tokenize.events

/-- A source has a file element that names the given file. -/
def Names (source : Source) (filename : String) : Prop :=
  ∃ attributes, .opened "file" attributes ∈ source.tokenize.events ∧
    findAttribute "name" attributes = some filename

end Xml.Source

/-- An accepted source has a file element exactly if a file element is offered something. -/
theorem exists_file_offer_iff_hasFile {source : Xml.Source}
    (h : source.tokenize.verdict = .wellFormed) :
    (∃ offer ∈ offersOf [] source.tokenize.events, offer.owner.name = "file") ↔
      source.HasFile := by
  constructor
  · rintro ⟨offer, hoffer, hname⟩
    have hopened := (exists_offer_iff_opened h offer.owner).1 ⟨offer, hoffer, rfl⟩
    rw [hname] at hopened
    exact ⟨_, hopened⟩
  · rintro ⟨attributes, hopened⟩
    obtain ⟨offer, hoffer, howner⟩ := (exists_offer_iff_opened h ⟨"file", attributes⟩).2 hopened
    exact ⟨offer, hoffer, by rw [howner]⟩

/-- Every file element of an accepted source names the expected file. -/
theorem findAttribute_name_of_parse {source : Xml.Source} {expected : String} {doc : Document}
    (h : (parse source expected).1 = .ok doc) {attributes : List String}
    (hopened : .opened "file" attributes ∈ source.tokenize.events) :
    findAttribute "name" attributes = some expected := by
  obtain ⟨-, hverdict, hvalid, -⟩ := parse_eq_ok_iff.1 h
  obtain ⟨offer, hoffer, howner⟩ :=
    (exists_offer_iff_opened hverdict ⟨"file", attributes⟩).2 hopened
  have hfile := (hvalid offer hoffer).file
  rw [howner] at hfile
  exact hfile rfl

/-- A document that is accepted names the expected file exactly if it has a file element. -/
theorem names_iff_hasFile_of_parse {source : Xml.Source} {expected : String} {doc : Document}
    (h : (parse source expected).1 = .ok doc) : source.Names expected ↔ source.HasFile :=
  ⟨fun ⟨attributes, hopened, _⟩ => ⟨attributes, hopened⟩,
    fun ⟨attributes, hopened⟩ => ⟨attributes, hopened, findAttribute_name_of_parse h hopened⟩⟩

/-- An accepted document has the expected name exactly if its source has a file element. -/
theorem filename_of_parse {source : Xml.Source} {expected : String} {doc : Document}
    (h : (parse source expected).1 = .ok doc) :
    doc.filename = some expected ↔ source.HasFile := by
  obtain ⟨-, hverdict, -, rfl⟩ := parse_eq_ok_iff.1 h
  rw [← exists_file_offer_iff_hasFile hverdict, gather]
  split
  · next hfile => exact iff_of_true rfl hfile
  · next hfile => exact iff_of_false (by simp) hfile

/-! ## Commands -/

/-- A file is parsed to what its bytes are. -/
theorem parseFile_eq_ok_iff {storage : Storage} {path : Path} {expected : String}
    {doc : Document} :
    (parseFile storage path expected).1 = .ok doc ↔
      ∃ content, storage.readFile path = .ok content ∧
        (parse (.bytes content) expected).1 = .ok doc := by
  cases hread : storage.readFile path with
  | ok content => simp [parseFile_of_readFile hread]
  | error fault => cases fault <;> simp [parseFile, hread]

namespace CommandLine

/-- The command for showing succeeds exactly if the metalink can be read. -/
theorem runDescribe_succeeded_iff (workplace : Workplace) (metalink : Path) (name : String) :
    (runDescribe workplace metalink name).ending = .succeeded ↔
      ∃ doc, (parseFile workplace.storage metalink name).1 = .ok doc := by
  unfold runDescribe
  rcases parseFile workplace.storage metalink name with ⟨result, log⟩
  cases result with
  | ok doc => simp
  | error failure => cases failure <;> simp [Outcome.failing]

/-- One of the commands succeeds with a metalink, for the file of a given name. -/
def Succeeds (workplace : Workplace) (metalink : Path) (expected : String) : Prop :=
  (runDescribe workplace metalink expected).ending = .succeeded ∨
    ∃ settings file name, expectedName file name = expected ∧
      (runVerify workplace settings metalink file name).ending = .succeeded

/-- A command succeeds only with a metalink that is accepted. -/
theorem Succeeds.exists_parse {workplace : Workplace} {metalink : Path} {expected : String}
    (h : Succeeds workplace metalink expected) :
    ∃ content doc, workplace.storage.readFile metalink = .ok content ∧
      (parse (.bytes content) expected).1 = .ok doc := by
  have hparse : ∃ doc, (parseFile workplace.storage metalink expected).1 = .ok doc := by
    rcases h with hshown | ⟨settings, file, name, rfl, hverified⟩
    · exact (runDescribe_succeeded_iff workplace metalink expected).1 hshown
    · obtain ⟨doc, hdoc, -⟩ :=
        (runVerify_succeeded_iff workplace settings metalink file name _).1 ⟨hverified, rfl⟩
      exact ⟨doc, hdoc⟩
  obtain ⟨doc, hdoc⟩ := hparse
  obtain ⟨content, hread, hcontent⟩ := parseFile_eq_ok_iff.1 hdoc
  exact ⟨content, doc, hread, hcontent⟩

/-! ## Names of accepted metalinks -/

/-- A metalink that is accepted names the expected file, in a file element and in its
document, exactly if it has a file element at all; and so does a metalink with which a
command succeeds. -/
theorem accepted_names_iff_hasFile (source : Xml.Source) (expected : String) :
    (∀ doc, (parse source expected).1 = .ok doc →
      (source.Names expected ∧ doc.filename = some expected ↔ source.HasFile)) ∧
      ∀ (workplace : Workplace) (metalink : Path) (content : Bytes), source = .bytes content →
        workplace.storage.readFile metalink = .ok content →
        Succeeds workplace metalink expected → (source.Names expected ↔ source.HasFile) := by
  constructor
  · intro doc h
    rw [names_iff_hasFile_of_parse h, filename_of_parse h, and_self]
  · rintro workplace metalink content rfl hread hsucceeds
    obtain ⟨found, doc, hfound, hdoc⟩ := hsucceeds.exists_parse
    rw [hread] at hfound
    cases hfound
    exact names_iff_hasFile_of_parse hdoc

/-- A metalink with an empty file element names the file of that element. -/
theorem names_file_of_empty_file :
    let source : Xml.Source := .text "<file name=\"f.rpm\"/>"
    ∃ doc, (parse source "f.rpm").1 = .ok doc ∧ source.HasFile ∧ source.Names "f.rpm" ∧
      doc.filename = some "f.rpm" := by
  intro source
  have htokens : source.tokenize =
      ⟨[.opened "file" ["name", "f.rpm"], .closed "file"], .wellFormed⟩ := by decide +kernel
  have hok : (parse source "f.rpm").1 =
      .ok (gather "f.rpm" [⟨⟨"file", ["name", "f.rpm"]⟩, ""⟩]) := by
    refine parse_eq_ok_iff.2 ⟨by decide, by rw [htokens], ?_, by rw [htokens]; rfl⟩
    rw [htokens]
    intro offer hoffer
    obtain rfl : offer = ⟨⟨"file", ["name", "f.rpm"]⟩, ""⟩ := List.mem_singleton.1 hoffer
    exact ⟨fun _ => rfl, by simp, by simp, by simp⟩
  have hfile : source.HasFile := ⟨["name", "f.rpm"], by rw [htokens]; exact List.mem_cons_self⟩
  have hnames := ((accepted_names_iff_hasFile source "f.rpm").1 _ hok).2 hfile
  exact ⟨_, hok, hfile, hnames⟩

/-- A metalink that is nothing but an empty element without content is accepted for a file that
nothing in it names, and the command for showing succeeds with it. -/
theorem accepts_without_file :
    let content : Bytes := "<metalink/>".toUTF8.toList
    (parse (.bytes content) "f.rpm").1 = .ok .empty ∧
      ¬ (Xml.Source.bytes content).Names "f.rpm" ∧ Document.empty.filename ≠ some "f.rpm" ∧
      ∀ (workplace : Workplace) (metalink : Path),
        workplace.storage.readFile metalink = .ok content →
          (runDescribe workplace metalink "f.rpm").ending = .succeeded := by
  intro content
  have htokens : (Xml.Source.bytes content).tokenize =
      ⟨[.opened "metalink" [], .closed "metalink"], .wellFormed⟩ := by decide +kernel
  have hok : (parse (.bytes content) "f.rpm").1 = .ok .empty := by
    refine parse_eq_ok_iff.2 ⟨by decide, by rw [htokens], ?_, by rw [htokens]; rfl⟩
    rw [htokens]
    intro offer hoffer
    obtain rfl : offer = ⟨⟨"metalink", []⟩, ""⟩ := List.mem_singleton.1 hoffer
    exact ⟨by simp, by simp, by simp, by simp⟩
  refine ⟨hok, ?_, nofun, fun workplace metalink hread => ?_⟩
  · rintro ⟨attributes, hopened, -⟩
    rw [htokens] at hopened
    simp at hopened
  · exact (runDescribe_succeeded_iff workplace metalink "f.rpm").2
      ⟨.empty, parseFile_eq_ok_iff.2 ⟨content, hread, hok⟩⟩

end CommandLine

end Metalink
