import Mathlib.Tactic.Common
import Metalink.Checksum
import Metalink.Digest.Engine

/-!
# Digests of whole files

A file is read in pieces until nothing is left, and its digest is built up from the pieces.
For sizes of pieces that leave nothing out, neither the pieces nor the portions in which
the system hands out the bytes show in what the engine does.  Pieces of size zero leave
everything out, and the first read fails for sizes below minus one and for those that memory has
no room for.

Main results:

- `flatten_pieces`: the pieces of a file are what is seen of it.
- `obstacle?_eq_none_iff`: which sizes of pieces a file can be read in.
- `digestStream_eq_digestWhole`: the engine digests what is seen in one piece.
- `digest_eq_ok_iff`: when there is a digest, and which.
- `function_canonicalName_eq_ok_iff`: the function for an algorithm is permitted, unless it
  is MD5 under FIPS compliance.
-/

namespace Metalink

/-! ## Pieces -/

/-- Pieces of a positive size leave nothing out. -/
theorem flatten_cutPieces {size : Nat} (h : 0 < size) (bytes : Bytes) :
    (cutPieces size bytes).flatten = bytes := by
  fun_induction cutPieces size bytes with
  | case1 bytes hstop =>
    rcases hstop with hzero | hempty
    · omega
    · rw [hempty]
      rfl
  | case2 bytes hgo ih => rw [List.flatten_cons, ih, List.take_append_drop]

/-- A size of pieces leaves nothing of a file out: it is positive, or the one that stands for
all there is. -/
def IsWholeSize (size : Int) : Prop :=
  size = -1 ∨ 0 < size

theorem IsWholeSize.ne_zero {size : Int} (h : IsWholeSize size) : size ≠ 0 := by
  rcases h with rfl | hpos <;> omega

namespace Stream

/-- A stream as reading in pieces of a size sees it: nothing of it for the size zero, and all
of it otherwise. -/
def seen (stream : Stream) (size : Int) : Stream :=
  if size = 0 then ⟨[], stream.fault⟩ else stream

theorem seen_zero (stream : Stream) : stream.seen 0 = ⟨[], stream.fault⟩ :=
  if_pos rfl

theorem seen_of_ne_zero {size : Int} (h : size ≠ 0) (stream : Stream) :
    stream.seen size = stream :=
  if_neg h

@[simp]
theorem fault_seen (stream : Stream) (size : Int) : (stream.seen size).fault = stream.fault := by
  unfold seen
  split <;> rfl

/-- The pieces of a file are what is seen of its content. -/
theorem flatten_pieces {size : Int} (h : -1 ≤ size) (stream : Stream) :
    (stream.pieces size).flatten = (stream.seen size).content := by
  unfold pieces
  rcases (by omega : size = -1 ∨ size = 0 ∨ 0 < size) with rfl | rfl | hpos
  · rw [seen_of_ne_zero (by decide)]
    by_cases hempty : stream.content = [] <;> simp [hempty]
  · -- Nothing can be cut off in pieces of size zero.
    simp [seen_zero, content, cutPieces]
  · have hall : ¬ size = -1 := by omega
    have hsize : 0 < size.toNat := by omega
    rw [if_neg hall, seen_of_ne_zero (by omega), content]
    induction stream.portions with
    | nil => rfl
    | cons portion rest ih =>
      rw [List.flatMap_cons, List.flatten_append, flatten_cutPieces hsize, ih, List.flatten_cons]

/-! ## Room for pieces -/

/-- A stream can be read in pieces of a size: the size is not below minus one, and memory has
room for what one read asks for. -/
def IsReadable (stream : Stream) (memory : Memory) (size : Int) : Prop :=
  -1 ≤ size ∧ stream.roomFor size ≤ memory.room

instance (stream : Stream) (memory : Memory) (size : Int) :
    Decidable (stream.IsReadable memory size) :=
  inferInstanceAs (Decidable (_ ∧ _))

/-- A positive size is one for every stream or for none. -/
theorem isReadable_iff_of_pos {size : Int} (h : 0 < size) {stream : Stream} {memory : Memory} :
    stream.IsReadable memory size ↔ size ≤ memory.room := by
  have hall : ¬ size = -1 := by omega
  rw [IsReadable, roomFor, if_neg hall]
  omega

/-- Nothing else keeps a stream from being read. -/
theorem obstacle?_eq_none_iff {stream : Stream} {memory : Memory} {size : Int} :
    stream.obstacle? memory size = none ↔ stream.IsReadable memory size := by
  have hroom := memory.room_le
  have hbound : (longestPiece : Int) < sizeBound := by decide
  have hpos : 0 < sizeBound := by decide
  unfold obstacle? IsReadable roomFor
  split
  · next hrange =>
    simp only [reduceCtorEq, false_iff, not_and, Nat.not_le]
    intro hsmall
    rw [if_neg (by omega)]
    omega
  · next hrange =>
    split
    · simp only [reduceCtorEq, false_iff]
      omega
    · split
      · simp only [reduceCtorEq, false_iff]
        rw [if_neg (by omega)]
        omega
      · simp only [ite_eq_right_iff, reduceCtorEq, imp_false, Nat.not_lt]
        exact (and_iff_right (by omega)).symm

/-- Reading gives all pieces, and the failure after them. -/
theorem read_of_isReadable {stream : Stream} {memory : Memory} {size : Int}
    (h : stream.IsReadable memory size) :
    stream.read memory size = .ok ⟨stream.pieces size, stream.fault⟩ := by
  rw [read, obstacle?_eq_none_iff.2 h]

/-- The first read of any other size fails. -/
theorem exists_obstacle {stream : Stream} {memory : Memory} {size : Int}
    (h : ¬ stream.IsReadable memory size) :
    ∃ escape, stream.obstacle? memory size = some escape ∧
      stream.read memory size = .error escape := by
  obtain ⟨escape, hescape⟩ := Option.ne_none_iff_exists'.1 (mt obstacle?_eq_none_iff.1 h)
  exact ⟨escape, hescape, by rw [read, hescape]⟩

end Stream

namespace Digest

/-! ## The engine -/

namespace Engine

/-- Digest an opened file in one piece. -/
def digestWhole (engine : Engine) (stream : Stream) (path : Path) (algorithm : String) :
    Except Failure Bytes × Log :=
  match engine.function algorithm with
  | (.error e, log) => (.error (.error e), log)
  | (.ok f, log) =>
    match stream.fault with
    | some fault =>
      (.error (.error (.fileAccess (.readForDigest fault.text) path.text fault.errno)),
        log ++ unreadable path)
    | none =>
      match f.digest? stream.content with
      | none => (.error (.escape .noDigestLength), log)
      | some digest =>
        (.ok digest,
          log ++ .debug ("Computed " ++ algorithm ++ " for " ++ path.name ++ ": " ++
            Hex.encode digest))

/-- The engine digests what is seen of a file, and its pieces do not show. -/
theorem digestStream_eq_digestWhole {engine : Engine} {stream : Stream}
    (h : stream.IsReadable engine.host.memory engine.chunkSize) (path : Path)
    (algorithm : String) :
    engine.digestStream stream path algorithm =
      engine.digestWhole (stream.seen engine.chunkSize) path algorithm := by
  unfold digestStream digestWhole
  rcases engine.function algorithm with ⟨result, log⟩
  cases result with
  | error e => rfl
  | ok f =>
    simp only [Stream.read_of_isReadable h, Stream.fault_seen]
    cases stream.fault with
    | some fault => rfl
    | none =>
      cases hdigest : f.digest? (stream.seen engine.chunkSize).content <;>
        simp only [f.digestPieces?_eq, Stream.flatten_pieces h.1, hdigest]

/-- A file that cannot be read in pieces of the size is not digested. -/
theorem digestStream_of_not_isReadable {engine : Engine} {stream : Stream}
    (h : ¬ stream.IsReadable engine.host.memory engine.chunkSize) {f : LibraryFunction}
    {algorithm : String} (hfunction : (engine.function algorithm).1 = .ok f) (path : Path) :
    ∃ escape, stream.obstacle? engine.host.memory engine.chunkSize = some escape ∧
      (engine.digestStream stream path algorithm).1 = .error (.escape escape) := by
  obtain ⟨escape, hobstacle, hread⟩ := Stream.exists_obstacle h
  refine ⟨escape, hobstacle, ?_⟩
  rcases hresult : engine.function algorithm with ⟨result, log⟩
  rw [hresult] at hfunction
  obtain rfl : result = .ok f := hfunction
  simp only [digestStream, hresult, hread]

/-- There is a digest exactly if the file can be opened and read to its end in pieces of the
size, and the algorithm is permitted and has digests of one length; and it is the digest of what
is seen of the content. -/
theorem digest_eq_ok_iff {engine : Engine} {path : Path} {algorithm : String} {bytes : Bytes} :
    (engine.digest path algorithm).1 = .ok bytes ↔
      ∃ stream f, engine.storage.openFile path = .ok stream ∧
        stream.IsReadable engine.host.memory engine.chunkSize ∧ stream.fault = none ∧
          (engine.function algorithm).1 = .ok (.fixed f) ∧
            bytes = f.digest (stream.seen engine.chunkSize).content := by
  unfold digest
  cases hopen : engine.storage.openFile path with
  | error fault => cases fault <;> simp
  | ok stream =>
    by_cases hread : stream.IsReadable engine.host.memory engine.chunkSize
    · simp only [digestStream_eq_digestWhole hread, digestWhole, Stream.fault_seen]
      rcases engine.function algorithm with ⟨result, log⟩
      rcases result with e | f | _
      · simp
      · cases hfault : stream.fault <;> simp [hread, hfault, LibraryFunction.digest?, eq_comm]
      · cases hfault : stream.fault <;> simp [LibraryFunction.digest?]
    · -- The first read fails, if it comes to that.
      simp only [Except.ok.injEq, exists_and_left, exists_eq_left', hread, false_and, iff_false]
      intro hbytes
      rcases hfunction : engine.function algorithm with ⟨result, log⟩
      cases result with
      | error e => simp [digestStream, hfunction] at hbytes
      | ok f =>
        obtain ⟨escape, -, hescape⟩ :=
          digestStream_of_not_isReadable hread (by rw [hfunction]) path
        rw [hbytes] at hescape
        cases hescape

/-- The size of the pieces does not show in a digest, nor in the records about it, as long as
they leave nothing out and memory has room for them. -/
theorem digest_congr {engine other : Engine} (h : engine.chunkSize ≠ 0)
    (hother : other.chunkSize ≠ 0)
    (hread : ∀ stream : Stream, stream.IsReadable engine.host.memory engine.chunkSize)
    (hreadOther : ∀ stream : Stream, stream.IsReadable other.host.memory other.chunkSize)
    (hfips : engine.fips = other.fips) (hstorage : engine.storage = other.storage)
    (hhost : engine.host = other.host) : engine.digest = other.digest := by
  funext path algorithm
  unfold digest
  rw [hstorage]
  cases other.storage.openFile path with
  | error fault => cases fault <;> rfl
  | ok stream =>
    simp only [digestStream_eq_digestWhole (hread stream),
      digestStream_eq_digestWhole (hreadOther stream), Stream.seen_of_ne_zero h,
      Stream.seen_of_ne_zero hother, digestWhole, function, hfips, hhost]

end Engine

end Digest

/-! ## Algorithms -/

open Metalink.Digest

/-- The hash function of an algorithm. -/
def Algorithm.function : Algorithm → HashFunction
  | md5 => .md5
  | sha1 => .sha1
  | sha256 => .sha256
  | sha512 => .sha512

/-- A library has the function of an algorithm under its name. -/
theorem Digest.Library.find?_canonicalName (library : Library) (a : Algorithm) :
    library.find? a.canonicalName = some (.fixed a.function) := by
  cases a <;> rfl

/-- The engine has the function of an algorithm under its name, and forbids nothing but MD5
under FIPS compliance. -/
theorem Digest.Engine.function_canonicalName_eq_ok_iff {engine : Engine} {a : Algorithm}
    {f : LibraryFunction} :
    (engine.function a.canonicalName).1 = .ok f ↔
      ¬ (a = .md5 ∧ engine.fips = true) ∧ f = .fixed a.function := by
  have hmd5 : Text.lower a.canonicalName = "md5" ↔ a = .md5 := by cases a <;> decide
  unfold function
  simp only [hmd5, Library.find?_canonicalName]
  by_cases hforbidden : a = .md5 ∧ engine.fips = true
  · simp [hforbidden]
  · simp only [hforbidden, if_false, Except.ok.injEq, not_false_eq_true, true_and]
    exact eq_comm

end Metalink
