import Mathlib.Logic.Relation
import Metalink.Proofs.Digest.Engine

/-!
# The loop of reads

A file is digested in a loop: a read either gives some of the bytes that are left, which go into
the hasher, or nothing, which is the end of the file, or it fails.  A read may give less than was
asked for, so that one file can be read in many ways.  All of them come to an end, and to the same
one: the digest of the whole content or, if some read fails, the failure.

Main results:

- `wellFounded_readStep`, `exists_readStep`: the loop comes to an end, and does so only where it
  is over.
- `IsIntact.step`, `IsIntact.run`: what has gone into the hasher and what is left are the content.
- `readStep_of_read`: the engine reads in one of these ways.
- `digest_is_whole_or_none`: what the engine comes to, and every other way of reading with it.
-/

namespace Metalink.Digest

open Relation

/-- What there is to say of a file with some content: its digest, if nothing fails. -/
def HashFunction.outcome (f : HashFunction) (content : Bytes) :
    Option SystemFault → Except SystemFault Bytes
  | none => .ok (f.digest content)
  | some fault => .error fault

/-! ## Reads -/

/-- Where the loop of reads is: the hasher has taken what was read and some bytes are left, or the
loop has been left. -/
inductive ReadLoop (σ : Type) where
  | reading (state : σ) (left : Bytes)
  | stopped (outcome : Except SystemFault Bytes)

/-- A read asks for some number of bytes, or for all there is. -/
def Fits (size : Int) (piece : Bytes) : Prop :=
  size = -1 ∨ (piece.length : Int) ≤ size

/-- One turn of the loop, for a file that ends, or fails, once no bytes are left: the read gives
some of the bytes that are left, and no more than it asked for; or it gives nothing, which is the
end of the file; or it fails. -/
inductive ReadStep (f : HashFunction) (size : Int) (fault : Option SystemFault) :
    ReadLoop f.State → ReadLoop f.State → Prop where
  | piece (state : f.State) {piece : Bytes} (left : Bytes) (hsome : piece ≠ [])
      (hfits : Fits size piece) :
      ReadStep f size fault (.reading state (piece ++ left))
        (.reading (f.update state piece) left)
  | ended (state : f.State) (h : fault = none) :
      ReadStep f size fault (.reading state []) (.stopped (.ok (f.result state)))
  | failed (state : f.State) {failure : SystemFault} (h : fault = some failure) :
      ReadStep f size fault (.reading state []) (.stopped (.error failure))

section Loop

variable {f : HashFunction} {size : Int} {fault : Option SystemFault} {content left : Bytes}
  {state : f.State} {loop next : ReadLoop f.State}

/-! ### The end of the loop -/

/-- How many turns the loop can still take. -/
def ReadLoop.turns {σ : Type} : ReadLoop σ → Nat
  | reading _ left => left.length + 1
  | stopped _ => 0

/-- Every turn is one less to take. -/
theorem ReadStep.turns_lt (h : ReadStep f size fault loop next) :
    next.turns < loop.turns := by
  cases h with
  | piece state left hsome hfits =>
    have hpos := List.length_pos_iff.2 hsome
    simp only [ReadLoop.turns, List.length_append]
    omega
  | ended state h => exact Nat.succ_pos _
  | failed state h => exact Nat.succ_pos _

/-- The loop comes to an end, however the file answers. -/
theorem wellFounded_readStep (f : HashFunction) (size : Int) (fault : Option SystemFault) :
    WellFounded fun next loop => ReadStep f size fault loop next :=
  Subrelation.wf ReadStep.turns_lt (measure ReadLoop.turns).wf

/-- It goes on unless it is over: while bytes are left, at least one of them can be read. -/
theorem exists_readStep (hsize : IsWholeSize size) (fault : Option SystemFault)
    (state : f.State) (left : Bytes) :
    ∃ next, ReadStep f size fault (.reading state left) next := by
  cases left with
  | nil =>
    cases hfault : fault with
    | none => exact ⟨_, .ended state rfl⟩
    | some failure => exact ⟨_, .failed state rfl⟩
  | cons byte left =>
    have hfits : Fits size [byte] := by
      rcases hsize with hall | hpos
      · exact .inl hall
      · exact .inr hpos
    exact ⟨_, .piece state left (List.cons_ne_nil byte []) hfits⟩

/-! ### What the loop keeps -/

/-- Nothing of the content has been lost: with what is left, the hasher has taken all of it, and
when the loop is over it has come to what there is to say of the content. -/
def IsIntact (f : HashFunction) (content : Bytes) (fault : Option SystemFault) :
    ReadLoop f.State → Prop
  | .reading state left => f.update state left = f.update f.start content
  | .stopped outcome => outcome = f.outcome content fault

/-- A turn loses nothing of the content. -/
theorem IsIntact.step (h : IsIntact f content fault loop)
    (hstep : ReadStep f size fault loop next) : IsIntact f content fault next := by
  cases hstep with
  | @piece state piece left hsome hfits =>
    have hall : f.update state (piece ++ left) = f.update f.start content := h
    rw [f.update_append] at hall
    exact hall
  | ended state hfault =>
    have hall : f.update state [] = f.update f.start content := h
    rw [f.update_nil] at hall
    rw [hfault, IsIntact, HashFunction.outcome, HashFunction.digest, hall]
  | failed state hfault =>
    rw [hfault]
    exact rfl

/-- So does any number of turns. -/
theorem IsIntact.run (h : IsIntact f content fault loop)
    (hrun : ReflTransGen (ReadStep f size fault) loop next) :
    IsIntact f content fault next := by
  induction hrun with
  | refl => exact h
  | tail _ hstep ih => exact ih.step hstep

/-- Wherever the loop stops, it is over and has come to what there is to say of the content. -/
theorem eq_stopped_of_run (hsize : IsWholeSize size)
    (hrun : ReflTransGen (ReadStep f size fault) (.reading f.start content) loop)
    (hstop : ∀ next, ¬ ReadStep f size fault loop next) :
    loop = .stopped (f.outcome content fault) := by
  have hstart : IsIntact f content fault (.reading f.start content) := rfl
  have hintact := hstart.run hrun
  cases loop with
  | reading state left =>
    obtain ⟨next, hnext⟩ := exists_readStep hsize fault state left
    exact absurd hnext (hstop next)
  | stopped outcome =>
    obtain rfl : outcome = f.outcome content fault := hintact
    rfl

/-! ### The reads of a file -/

/-- Bytes can be read in any pieces that they are cut into. -/
theorem readStep_of_pieces {pieces : List Bytes}
    (h : ∀ piece ∈ pieces, piece ≠ [] ∧ Fits size piece) (fault : Option SystemFault)
    (state : f.State) (left : Bytes) :
    ReflTransGen (ReadStep f size fault) (.reading state (pieces.flatten ++ left))
      (.reading (pieces.foldl f.update state) left) := by
  induction pieces generalizing state with
  | nil => exact .refl
  | cons piece pieces ih =>
    obtain ⟨hsome, hfits⟩ := h piece List.mem_cons_self
    have hrest := ih (fun other hother => h other (List.mem_cons_of_mem _ hother))
      (f.update state piece)
    rw [List.flatten_cons, List.append_assoc, List.foldl_cons]
    exact .head (.piece state _ hsome hfits) hrest

end Loop

end Metalink.Digest

namespace Metalink

open Metalink.Digest

/-- No piece is empty or greater than its size. -/
theorem cutPieces_fit {size : Nat} {bytes : Bytes} :
    ∀ piece ∈ cutPieces size bytes, piece ≠ [] ∧ piece.length ≤ size := by
  fun_induction cutPieces size bytes with
  | case1 bytes hstop => intro piece hpiece; cases hpiece
  | case2 bytes hgo ih =>
    intro piece hpiece
    rcases List.mem_cons.1 hpiece with rfl | hrest
    · rw [not_or] at hgo
      refine ⟨?_, List.length_take_le _ _⟩
      intro hnil
      rcases List.take_eq_nil_iff.1 hnil with hzero | hempty
      · exact hgo.1 hzero
      · exact hgo.2 hempty
    · exact ih piece hrest

/-- The pieces of a stream are such pieces. -/
theorem Stream.pieces_fit {stream : Stream} {size : Int} (h : -1 ≤ size) :
    ∀ piece ∈ stream.pieces size, piece ≠ [] ∧ Fits size piece := by
  intro piece hpiece
  unfold pieces at hpiece
  by_cases hall : size = -1
  · rw [if_pos hall] at hpiece
    by_cases hempty : stream.content = []
    · simp [hempty] at hpiece
    · simp only [hempty, if_false, List.mem_singleton] at hpiece
      exact ⟨hpiece ▸ hempty, .inl hall⟩
  · rw [if_neg hall] at hpiece
    obtain ⟨portion, -, hcut⟩ := List.mem_flatMap.1 hpiece
    obtain ⟨hsome, hlength⟩ := cutPieces_fit piece hcut
    exact ⟨hsome, .inr (by omega)⟩

namespace Digest

/-- What the loop comes to with given pieces. -/
def digestReading (f : HashFunction) (reading : Reading) : Except SystemFault Bytes :=
  f.outcome reading.pieces.flatten reading.fault

/-- The reads of the engine are a run of the loop to its end. -/
theorem readStep_of_read (f : HashFunction) {stream : Stream} {memory : Memory} {size : Int}
    (hsize : IsWholeSize size) (hread : stream.IsReadable memory size) :
    ∃ reading, stream.read memory size = .ok reading ∧
      Relation.ReflTransGen (ReadStep f size stream.fault)
        (.reading f.start stream.content) (.stopped (digestReading f reading)) := by
  have hpieces : (stream.pieces size).flatten = stream.content := by
    rw [Stream.flatten_pieces hread.1, stream.seen_of_ne_zero hsize.ne_zero]
  refine ⟨_, Stream.read_of_isReadable hread, ?_⟩
  have hfit : ∀ piece ∈ stream.pieces size, piece ≠ [] ∧ Fits size piece :=
    Stream.pieces_fit hread.1
  have hrun := readStep_of_pieces hfit stream.fault f.start []
  rw [List.append_nil, hpieces] at hrun
  refine hrun.tail ?_
  cases hfault : stream.fault with
  | none =>
    rw [digestReading, HashFunction.outcome, ← f.digestPieces_eq]
    exact .ended _ rfl
  | some fault => exact .failed _ rfl

namespace Engine

variable {engine : Engine} {path : Path} {algorithm : String} {f : LibraryFunction}
  {stream : Stream}

theorem function_eq_ok (hfips : engine.fips = false)
    (hname : engine.host.library.find? algorithm = some f) :
    engine.function algorithm = (.ok f, []) := by
  simp [function, hfips, hname]

/-- What the engine comes to with a file that can be read in pieces of the size. -/
theorem digest_of_isReadable (hfips : engine.fips = false) (hsize : IsWholeSize engine.chunkSize)
    (hname : engine.host.library.find? algorithm = some f)
    (hopen : engine.storage.openFile path = .ok stream)
    (hread : stream.IsReadable engine.host.memory engine.chunkSize) :
    (engine.digest path algorithm).1 =
      match stream.fault, f.digest? stream.content with
      | some fault, _ =>
        .error (.error (.fileAccess (.readForDigest fault.text) path.text fault.errno))
      | none, none => .error (.escape .noDigestLength)
      | none, some bytes => .ok bytes := by
  simp only [digest, hopen, digestStream_eq_digestWhole hread, digestWhole,
    function_eq_ok hfips hname, Stream.seen_of_ne_zero hsize.ne_zero]
  cases stream.fault with
  | some fault => rfl
  | none => cases f.digest? stream.content <;> rfl

/-- An opened file is digested whole or not at all, under every name that the library knows and
for every size of pieces that leaves nothing out.

If memory has room for the pieces, the loop of reads decides.  There is a digest exactly if the
end of the file is reached and the function has digests of one length, and it is that of all
bytes.  If a read fails, after however many bytes, the failure is reported with the path.  At the
end of the file an extendable function has no digest, which is not reported.  If memory has no
room for the pieces, the first read fails and that is not reported either.

The engine reads in one way in which a file may answer.  Every other one leads to the same, for
every hash function: the loop cannot go on forever, and where it cannot go on it has come to the
digest of all bytes or to the failure. -/
theorem digest_is_whole_or_none (hfips : engine.fips = false)
    (hsize : IsWholeSize engine.chunkSize)
    (hname : engine.host.library.find? algorithm = some f)
    (hopen : engine.storage.openFile path = .ok stream) :
    (∀ bytes, (engine.digest path algorithm).1 = .ok bytes ↔
        stream.IsReadable engine.host.memory engine.chunkSize ∧ stream.fault = none ∧
          f.digest? stream.content = some bytes) ∧
      (stream.IsReadable engine.host.memory engine.chunkSize →
        (∀ fault, stream.fault = some fault → (engine.digest path algorithm).1 =
          .error (.error (.fileAccess (.readForDigest fault.text) path.text fault.errno))) ∧
        (stream.fault = none → f = .extendable →
          (engine.digest path algorithm).1 = .error (.escape .noDigestLength)) ∧
        ∀ g, f = .fixed g → ∃ reading,
          stream.read engine.host.memory engine.chunkSize = .ok reading ∧
            Relation.ReflTransGen (ReadStep g engine.chunkSize stream.fault)
              (.reading g.start stream.content) (.stopped (digestReading g reading))) ∧
      (¬ stream.IsReadable engine.host.memory engine.chunkSize → ∃ escape,
        stream.obstacle? engine.host.memory engine.chunkSize = some escape ∧
          (engine.digest path algorithm).1 = .error (.escape escape)) ∧
      ∀ g : HashFunction,
        WellFounded (fun next loop => ReadStep g engine.chunkSize stream.fault loop next) ∧
          ∀ loop, Relation.ReflTransGen (ReadStep g engine.chunkSize stream.fault)
              (.reading g.start stream.content) loop →
            (∀ next, ¬ ReadStep g engine.chunkSize stream.fault loop next) →
            loop = .stopped (g.outcome stream.content stream.fault) := by
  have hfunction := function_eq_ok hfips hname
  refine ⟨?_, ?_, ?_, ?_⟩
  · intro bytes
    rw [digest_eq_ok_iff]
    simp only [hopen, hfunction, Except.ok.injEq, exists_and_left, exists_eq_left',
      Stream.seen_of_ne_zero hsize.ne_zero]
    cases f with
    | fixed g => simp [LibraryFunction.digest?, eq_comm]
    | extendable => simp [LibraryFunction.digest?]
  · intro hread
    have hdigest := digest_of_isReadable hfips hsize hname hopen hread
    refine ⟨fun fault hfault => ?_, fun hfault hextendable => ?_, fun g hfixed => ?_⟩
    · rw [hdigest, hfault]
    · rw [hdigest, hfault, hextendable]
      rfl
    · exact readStep_of_read g hsize hread
  · intro hread
    obtain ⟨escape, hobstacle, hescape⟩ :=
      digestStream_of_not_isReadable hread (by rw [hfunction]) path
    refine ⟨escape, hobstacle, ?_⟩
    simp only [digest, hopen, hescape]
  · intro g
    exact ⟨wellFounded_readStep g _ _, fun loop hrun hstop => eq_stopped_of_run hsize hrun hstop⟩

/-- Three bytes that come in short reads have the digest of all three; if the read after them
fails, in place of the end of the file, they have none. -/
theorem short_reads_are_digested_whole :
    let path : Path := ⟨.here, ["f"]⟩
    let portions : List Bytes := [[0x61], [0x62, 0x63]]
    let failure : SystemFault := ⟨5, "Input/output error"⟩
    let engine : Engine := ⟨2, false, fun _ => .ok ⟨portions, none⟩, .standard⟩
    let broken : Engine := ⟨2, false, fun _ => .ok ⟨portions, some failure⟩, .standard⟩
    (engine.digest path "MD5").1 = .ok [0x90, 0x01, 0x50, 0x98, 0x3c, 0xd2, 0x4f, 0xb0, 0xd6, 0x96,
        0x3f, 0x7d, 0x28, 0xe1, 0x7f, 0x72] ∧
      (broken.digest path "MD5").1 =
        .error (.error (.fileAccess (.readForDigest "Input/output error") "f" (some 5))) := by
  intro path portions failure engine broken
  have hname : Library.standard.find? "MD5" = some (.fixed .md5) := rfl
  have hsize : IsWholeSize 2 := .inr (by decide)
  have hopen : engine.storage.openFile path = .ok ⟨portions, none⟩ := by decide
  have hopenBroken : broken.storage.openFile path = .ok ⟨portions, some failure⟩ := by decide
  have hwhole := digest_is_whole_or_none rfl hsize hname hopen
  have hbroken := digest_is_whole_or_none rfl hsize hname hopenBroken
  exact ⟨(hwhole.1 _).2 ⟨by decide, rfl, by decide +kernel⟩,
    (hbroken.2.1 (by decide)).1 failure rfl⟩

/-- A file that is read to its end has no digest by an extendable function, and what comes out is
none of the errors of the engine. -/
theorem extendable_function_has_no_digest :
    let path : Path := ⟨.here, ["f"]⟩
    let stream : Stream := .whole [0x61, 0x62, 0x63]
    let engine : Engine := ⟨defaultChunkSize, false, fun _ => .ok stream, .standard⟩
    engine.storage.openFile path = .ok stream ∧ stream.fault = none ∧
      stream.IsReadable engine.host.memory engine.chunkSize ∧
      (∃ f, engine.host.library.find? "shake_128" = some f) ∧
      (engine.digest path "shake_128").1 = .error (.escape .noDigestLength) := by
  intro path stream engine
  have hname : engine.host.library.find? "shake_128" = some .extendable := rfl
  exact ⟨by decide, rfl, by decide, ⟨_, hname⟩, rfl⟩

end Engine

end Digest

end Metalink
