import Mathlib.Data.List.Basic

/-!
# Stream decoders

A decoder reads frames from the front of a buffer to which the received pieces are appended.
Where a result stands whatever follows, the frames do not depend on how the stream was cut.
-/

variable {buffer rest : List UInt8}

namespace StreamDecoder

variable {State Frame Error : Type}

inductive Step (State Frame Error : Type) where
  | needMore (state : State) (buffer : List UInt8)
  | frame (frame : Frame) (state : State) (buffer : List UInt8)
  | failed (error : Error)

/-- A result stands whatever is appended, and a call that asked for more can be taken up. -/
inductive Settles (decode : State → List UInt8 → Step State Frame Error) (state : State)
    (buffer : List UInt8) : Prop where
  | waits (next : State) (rest : List UInt8) (now : decode state buffer = .needMore next rest)
      (resumes : ∀ more, decode state (buffer ++ more) = decode next (rest ++ more))
  | delivers (frame : Frame) (next : State) (rest : List UInt8)
      (shorter : rest.length < buffer.length)
      (stays : ∀ more, decode state (buffer ++ more) = .frame frame next (rest ++ more))
  | fails (error : Error) (stays : ∀ more, decode state (buffer ++ more) = .failed error)

theorem Settles.consumes {decode : State → List UInt8 → Step State Frame Error} {state next : State}
    {frame : Frame} (settles : Settles decode state buffer)
    (result : decode state buffer = .frame frame next rest) : rest.length < buffer.length := by
  cases settles with
  | waits other remaining now =>
    rw [now] at result
    cases result
  | delivers delivered following remaining shorter stays =>
    have now := stays []
    rw [List.append_nil, List.append_nil, result] at now
    cases now
    exact shorter
  | fails error stays =>
    have now := stays []
    rw [List.append_nil, result] at now
    cases now

end StreamDecoder

open StreamDecoder in
/-- A decoder whose frames take bytes from the buffer, so that it cannot be called for ever. -/
structure StreamDecoder (State Frame Error : Type) where
  decode : State → List UInt8 → Step State Frame Error
  consumes : ∀ {state next : State} {buffer rest : List UInt8} {frame : Frame},
    decode state buffer = .frame frame next rest → rest.length < buffer.length

namespace StreamDecoder

variable {State Frame Error : Type} (decoder : StreamDecoder State Frame Error)

structure Delivered (State Frame Error : Type) where
  frames : List Frame
  left : Except Error (State × List UInt8)

/-- The calls until more is needed. -/
def drain (state : State) (buffer : List UInt8) : Delivered State Frame Error :=
  match _result : decoder.decode state buffer with
  | .needMore next rest => ⟨[], .ok (next, rest)⟩
  | .failed error => ⟨[], .error error⟩
  | .frame frame next rest =>
    let later := drain next rest
    ⟨frame :: later.frames, later.left⟩
termination_by buffer.length
decreasing_by exact decoder.consumes _result

/-- The pieces are appended one at a time. A failure ends the stream. -/
def feed : State × List UInt8 → List (List UInt8) → Delivered State Frame Error
  | current, [] => ⟨[], .ok current⟩
  | current, piece :: pieces =>
    let now := decoder.drain current.1 (current.2 ++ piece)
    match now.left with
    | .error error => ⟨now.frames, .error error⟩
    | .ok next =>
      let later := feed next pieces
      ⟨now.frames ++ later.frames, later.left⟩

section

variable {state next : State} {frame : Frame} {error : Error}

theorem drain_eq : decoder.drain state buffer = match decoder.decode state buffer with
    | .needMore next rest => ⟨[], .ok (next, rest)⟩
    | .failed error => ⟨[], .error error⟩
    | .frame frame next rest =>
      ⟨frame :: (decoder.drain next rest).frames, (decoder.drain next rest).left⟩ := by
  rw [drain]
  split <;> rename_i result <;> rw [result]

theorem drain_needMore (result : decoder.decode state buffer = .needMore next rest) :
    decoder.drain state buffer = ⟨[], .ok (next, rest)⟩ := by
  rw [drain_eq, result]

theorem drain_failed (result : decoder.decode state buffer = .failed error) :
    decoder.drain state buffer = ⟨[], .error error⟩ := by
  rw [drain_eq, result]

theorem drain_frame (result : decoder.decode state buffer = .frame frame next rest) :
    decoder.drain state buffer =
      ⟨frame :: (decoder.drain next rest).frames, (decoder.drain next rest).left⟩ := by
  rw [drain_eq, result]

end

def Incremental : Prop := ∀ state buffer, Settles decoder.decode state buffer

variable {decoder}

theorem drain_congr {state other : State}
    (same : decoder.decode state buffer = decoder.decode other rest) :
    decoder.drain state buffer = decoder.drain other rest := by
  rw [drain_eq, drain_eq, same]

/-- Draining a buffer and later what was appended to the rest is draining it all. -/
theorem Incremental.drain_append (incremental : decoder.Incremental) (state : State)
    (buffer more : List UInt8) :
    decoder.drain state (buffer ++ more) = match (decoder.drain state buffer).left with
      | .error error => ⟨(decoder.drain state buffer).frames, .error error⟩
      | .ok next =>
        ⟨(decoder.drain state buffer).frames ++ (decoder.drain next.1 (next.2 ++ more)).frames,
          (decoder.drain next.1 (next.2 ++ more)).left⟩ := by
  -- a frame shortens the buffer, so the induction is on its length
  induction size : buffer.length using Nat.strongRecOn generalizing state buffer with
  | _ length ih =>
    cases incremental state buffer with
    | waits next rest now resumes =>
      rw [drain_needMore decoder now, drain_congr (resumes more)]
      rfl
    | fails error stays =>
      have now := stays []
      rw [List.append_nil] at now
      rw [drain_failed decoder now, drain_failed decoder (stays more)]
    | delivers frame next rest shorter stays =>
      have now := stays []
      rw [List.append_nil, List.append_nil] at now
      have later := ih rest.length (size ▸ shorter) next rest rfl
      rw [drain_frame decoder now, drain_frame decoder (stays more), later]
      cases (decoder.drain next rest).left with
      | error | ok => rfl

theorem Incremental.waiting_of_drain (incremental : decoder.Incremental) {state next : State}
    (left : (decoder.drain state buffer).left = .ok (next, rest)) :
    decoder.drain next rest = ⟨[], .ok (next, rest)⟩ := by
  induction size : buffer.length using Nat.strongRecOn generalizing state buffer with
  | _ length ih =>
    cases incremental state buffer with
    | waits stopped remaining now resumes =>
      rw [drain_needMore decoder now] at left
      cases left
      have again := resumes []
      rw [List.append_nil, List.append_nil, now] at again
      exact drain_needMore decoder again.symm
    | fails error stays =>
      have now := stays []
      rw [List.append_nil] at now
      rw [drain_failed decoder now] at left
      cases left
    | delivers frame following remaining shorter stays =>
      have now := stays []
      rw [List.append_nil, List.append_nil] at now
      rw [drain_frame decoder now] at left
      exact ih remaining.length (size ▸ shorter) left rfl

/-- The pieces of a stream are decoded as the whole of it is, from a buffer on which the decoder
has asked for more. -/
theorem Incremental.feed_eq (incremental : decoder.Incremental) {current : State × List UInt8}
    (pieces : List (List UInt8)) (waiting : decoder.drain current.1 current.2 = ⟨[], .ok current⟩) :
    decoder.feed current pieces = decoder.drain current.1 (current.2 ++ pieces.flatten) := by
  induction pieces generalizing current with
  | nil => rw [feed, List.flatten_nil, List.append_nil, waiting]
  | cons piece pieces ih =>
    rw [feed, List.flatten_cons, ← List.append_assoc,
      incremental.drain_append current.1 (current.2 ++ piece) pieces.flatten]
    cases left : (decoder.drain current.1 (current.2 ++ piece)).left with
    | error => rfl
    | ok =>
      have later := ih (incremental.waiting_of_drain left)
      simp only [later]

/-- A frame is what its encoding is read from, and a buffer without one is short. -/
def Parses (decoder : StreamDecoder State Frame Error) (start : State)
    (encode : Frame → List UInt8) (bound : Nat) : Prop :=
  ∀ buffer, match decoder.decode start buffer with
    | .needMore _ rest => rest = buffer ∧ buffer.length < bound
    | .frame frame next rest => next = start ∧ buffer = encode frame ++ rest
    | .failed _ => True

/-- The stream is the frames and a rest, which is kept unless decoding failed. -/
theorem Parses.drain {start : State} {encode : Frame → List UInt8} {bound : Nat}
    (parses : decoder.Parses start encode bound) (buffer : List UInt8) :
    ∃ rest, buffer = ((decoder.drain start buffer).frames.map encode).flatten ++ rest ∧
      ∀ next kept, (decoder.drain start buffer).left = .ok (next, kept) →
        kept = rest ∧ rest.length < bound := by
  induction size : buffer.length using Nat.strongRecOn generalizing buffer with
  | _ length ih =>
    have parsed := parses buffer
    cases result : decoder.decode start buffer with
    | needMore =>
      rw [result] at parsed
      rw [drain_needMore decoder result]
      refine ⟨buffer, rfl, ?_⟩
      rintro _ _ ⟨⟩
      exact parsed
    | failed =>
      rw [drain_failed decoder result]
      exact ⟨buffer, rfl, nofun⟩
    | frame =>
      rw [result] at parsed
      obtain ⟨rfl, whole⟩ := parsed
      obtain ⟨rest, later, kept⟩ := ih _ (size ▸ decoder.consumes result) _ rfl
      rw [drain_frame decoder result]
      refine ⟨rest, ?_, kept⟩
      rw [List.map_cons, List.flatten_cons, List.append_assoc, ← later, ← whole]

end StreamDecoder
