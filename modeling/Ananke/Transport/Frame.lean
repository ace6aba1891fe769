import Mathlib.Data.PNat.Basic

/-! Frames of a length and a payload, over connections that write and read in pieces. -/
namespace Ananke.Transport

open List

inductive FrameError
  | frameLimit | unexpectedEOF | eof

/-- The sizes are those that the successive writes take; what is left after them is written at
once. -/
def writeBytes : List Nat → List UInt8 → List UInt8 × Option FrameError
  | _, [] => ([], none)
  | [], v => (v, none)
  | n :: sizes, v =>
    if n = 0 then ([], some .unexpectedEOF)
    else
      let (written, e) := writeBytes sizes (v.drop n)
      (v.take n ++ written, e)

/-- `binary.BigEndian.PutUint32` -/
def header (n : Nat) : List UInt8 :=
  [UInt8.ofNat (n / 2 ^ 24), UInt8.ofNat (n / 2 ^ 16), UInt8.ofNat (n / 2 ^ 8), UInt8.ofNat n]

/-- `binary.BigEndian.Uint32` -/
def frameLength (bytes : List UInt8) : Nat := bytes.foldl (fun n b => 256 * n + b.toNat) 0

def writeFrame (limit : UInt32) (sizes : List Nat × List Nat) (payload : List UInt8) :
    List UInt8 × Option FrameError :=
  if payload.length = 0 ∨ limit.toNat < payload.length then ([], some .frameLimit)
  else
    match writeBytes sizes.1 (header payload.length) with
    | (written, some e) => (written, some e)
    | (written, none) =>
      let (written', e) := writeBytes sizes.2 payload
      (written ++ written', e)

/-- The loop of `io.ReadFull` over reads of these sizes, some of them perhaps empty. -/
def fill : List Nat → Nat → List UInt8 → List UInt8
  | _, 0, _ => []
  | [], want, stream => stream.take want
  | n :: sizes, want, stream =>
    stream.take (min n want) ++ fill sizes (want - n) (stream.drop (min n want))

def readFull (sizes : List Nat) (want : Nat) (stream : List UInt8) :
    Except FrameError (List UInt8) :=
  let bytes := fill sizes want stream
  if bytes.length = want then .ok bytes
  else if bytes = [] then .error .eof
  else .error .unexpectedEOF

/-- The payload, and what is left of the stream. -/
def readFrame (limit : UInt32) (sizes : List Nat × List Nat) (stream : List UInt8) :
    Except FrameError (List UInt8 × List UInt8) := do
  let bytes ← readFull sizes.1 4 stream
  if frameLength bytes = 0 ∨ limit.toNat < frameLength bytes then throw .frameLimit
  let payload ← readFull sizes.2 (frameLength bytes) (stream.drop 4)
  return (payload, stream.drop (4 + frameLength bytes))

/-- Frames one after the other, until one is not written whole. -/
def writeFrames (limit : UInt32) : (Nat → List Nat × List Nat) → List (List UInt8) →
    List UInt8 × Option FrameError
  | _, [] => ([], none)
  | sizes, payload :: payloads =>
    match writeFrame limit (sizes 0) payload with
    | (written, some e) => (written, some e)
    | (written, none) =>
      let (written', e) := writeFrames limit (fun i => sizes (i + 1)) payloads
      (written ++ written', e)

/-- Frames one after the other, at most so many, until one is not read. -/
def readFrames (limit : UInt32) : Nat → (Nat → List Nat × List Nat) → List UInt8 →
    List (List UInt8) × Option FrameError
  | 0, _, _ => ([], none)
  | count + 1, sizes, stream =>
    match readFrame limit (sizes 0) stream with
    | .error e => ([], some e)
    | .ok (payload, rest) =>
      let (payloads, e) := readFrames limit count (fun i => sizes (i + 1)) rest
      (payload :: payloads, e)

theorem writeBytes_eq (sizes : List ℕ+) (v : List UInt8) :
    writeBytes (sizes.map (↑)) v = (v, none) := by
  induction sizes generalizing v with
  | nil => cases v <;> rfl
  | cons n sizes ih =>
    cases v with
    | nil => rfl
    | cons b v => simp [writeBytes, ih, n.pos.ne']

theorem fill_eq (sizes : List Nat) (want : Nat) (stream : List UInt8) :
    fill sizes want stream = stream.take want := by
  fun_induction fill sizes want stream with
  | case1 => rfl
  | case2 => rfl
  | case3 n sizes want stream _ ih =>
    have hsplit : min n want + (want - n) = want := by omega
    rw [ih, ← take_add, hsplit]

variable {stream : List UInt8}

theorem readFull_of_le {sizes : List Nat} {want : Nat}
    (h : want ≤ stream.length) : readFull sizes want stream = .ok (stream.take want) := by
  simp [readFull, fill_eq, h]

theorem readFull_of_lt {sizes : List Nat} {want : Nat} (h : stream.length < want) :
    readFull sizes want stream = .error (if stream = [] then .eof else .unexpectedEOF) := by
  simp only [readFull, fill_eq, take_of_length_le h.le, if_neg h.ne]
  split <;> rfl

theorem frameLength_header {n : Nat} (h : n < 2 ^ 32) : frameLength (header n) = n := by
  simp [frameLength, header]
  omega

/-- What can be sent under a limit. -/
structure Payload (limit : UInt32) where
  bytes : List UInt8
  nonempty : bytes.length ≠ 0
  within : bytes.length ≤ limit.toNat

variable {limit : UInt32} {sizes : List Nat × List Nat} {p : Payload limit}

def Payload.frame (p : Payload limit) : List UInt8 := header p.bytes.length ++ p.bytes

theorem Payload.valid (p : Payload limit) : ¬ (p.bytes.length = 0 ∨ limit.toNat < p.bytes.length) :=
  not_or.mpr ⟨p.nonempty, p.within.not_gt⟩

/-- The payloads whose frames are complete in so many bytes of the stream. -/
def complete : Nat → List (Payload limit) → List (List UInt8)
  | _, [] => []
  | k, p :: ps => if p.frame.length ≤ k then p.bytes :: complete (k - p.frame.length) ps else []

theorem writeFrames_eq (sizes : Nat → List ℕ+ × List ℕ+) (ps : List (Payload limit)) :
    writeFrames limit (fun i => ((sizes i).1.map (↑), (sizes i).2.map (↑)))
      (ps.map Payload.bytes) = (ps.flatMap Payload.frame, none) := by
  induction ps generalizing sizes with
  | nil => rfl
  | cons p ps ih =>
    have hrest := ih fun i => sizes (i + 1)
    simp only [map_cons, writeFrames, writeFrame, if_neg p.valid, writeBytes_eq, hrest]
    rfl

/-- After a header, what is left is the payload or too short for it. -/
theorem readFrame_header (u : List UInt8) :
    readFrame limit sizes (header p.bytes.length ++ u) = (readFull sizes.2 p.bytes.length u).map
      fun payload => (payload, u.drop p.bytes.length) := by
  have hlen : frameLength (header p.bytes.length) = p.bytes.length :=
    frameLength_header (p.within.trans_lt limit.toNat_lt)
  have hdrop : (header p.bytes.length ++ u).drop (4 + p.bytes.length) = u.drop p.bytes.length := by
    rw [← drop_drop]
    rfl
  have hheader : readFull sizes.1 4 (header p.bytes.length ++ u) =
      .ok (header p.bytes.length) := readFull_of_le (by simp [header])
  have hrest : (header p.bytes.length ++ u).drop 4 = u := rfl
  simp only [readFrame, hheader, bind, Except.bind, hlen, if_neg p.valid, hdrop, hrest]
  cases readFull sizes.2 p.bytes.length u <;> rfl

theorem readFrame_append (rest : List UInt8) :
    readFrame limit sizes (p.frame ++ rest) = .ok (p.bytes, rest) := by
  rw [Payload.frame, append_assoc, readFrame_header, readFull_of_le (by simp), take_left]
  simp [Except.map]

theorem readFrame_take {k : Nat} (hk : k < p.frame.length) :
    ∃ e, readFrame limit sizes (p.frame.take k) = .error e := by
  have hlen : (p.frame.take k).length = k := length_take_of_le hk.le
  by_cases hheader : k < 4
  · rw [readFrame, readFull_of_lt (hlen.trans_lt hheader)]
    exact ⟨_, rfl⟩
  · have htake : p.frame.take k = header p.bytes.length ++ p.bytes.take (k - 4) := by
      rw [Payload.frame, take_append, take_of_length_le (by simp [header]; omega)]
      rfl
    have hshort : (p.bytes.take (k - 4)).length < p.bytes.length := by
      simp [header, Payload.frame] at hk ⊢
      omega
    rw [htake, readFrame_header, readFull_of_lt hshort]
    exact ⟨_, rfl⟩

/-- Whatever the pieces in which they are written and read, the payloads are written whole; what
is read of any beginning of the stream are the payloads whose frames are complete in it, and
then an error, which for the whole stream is its end. -/
theorem frames_round_trip (payloads : List (Payload limit)) (writes : Nat → List ℕ+ × List ℕ+)
    (reads : Nat → List Nat × List Nat) :
    ∃ stream, writeFrames limit (fun i => ((writes i).1.map (↑), (writes i).2.map (↑)))
        (payloads.map Payload.bytes) = (stream, none) ∧
      readFrames limit (payloads.length + 1) reads stream =
        (payloads.map Payload.bytes, some .eof) ∧
      ∀ k < stream.length, (complete k payloads).length < payloads.length ∧
        ∃ e, readFrames limit (payloads.length + 1) reads (stream.take k) =
          (complete k payloads, some e) := by
  refine ⟨_, writeFrames_eq writes payloads, ?_⟩
  induction payloads generalizing reads with
  | nil =>
    have hend : readFrame limit (reads 0) [] = .error .eof := by
      rw [readFrame, readFull_of_lt (by simp)]
      rfl
    exact ⟨by simp [readFrames, hend], by simp⟩
  | cons p ps ih =>
    obtain ⟨hall, hsome⟩ := ih fun i => reads (i + 1)
    rw [flatMap_cons]
    refine ⟨by simp [readFrames, readFrame_append, hall], ?_⟩
    intro k hk
    rw [complete, take_append]
    split
    next hframe =>
      rw [length_append] at hk
      obtain ⟨hlength, e, hread⟩ := hsome (k - p.frame.length) (by omega)
      rw [take_of_length_le hframe]
      exact ⟨by simpa using hlength, e, by simp [readFrames, readFrame_append, hread]⟩
    next hframe =>
      obtain ⟨e, h⟩ := @readFrame_take limit (reads 0) p k (not_le.mp hframe)
      have hnone : k - p.frame.length = 0 := by omega
      exact ⟨by simp, e, by simp [readFrames, hnone, h]⟩

end Ananke.Transport
