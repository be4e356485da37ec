import Mathlib.Data.List.Induction

/-! Frames cut from a byte stream give the same result however the stream arrives in chunks. -/

/-- A framing rule finds the length of the first complete frame in a buffer. -/
structure Framer (β : Type) where
  /-- The length of the first frame, when the buffer holds it completely. -/
  frame : List β → Option Nat
  /-- A frame is not empty. -/
  positive : ∀ {buffer length}, frame buffer = some length → 0 < length
  /-- A complete frame lies within the buffer. -/
  bounded : ∀ {buffer length}, frame buffer = some length → length ≤ buffer.length
  /-- Whether a frame is complete, and where it ends, is decided by its own bytes. -/
  stable : ∀ {buffer length}, frame buffer = some length →
    ∀ rest, frame (buffer.take length ++ rest) = some length

namespace Framer

variable {β σ : Type} (framer : Framer β)

/-- Bytes that follow the first frame do not change it. -/
theorem frame_append {buffer : List β} {length : Nat} (found : framer.frame buffer = some length)
    (rest : List β) : framer.frame (buffer ++ rest) = some length := by
  -- The frame is found in its own bytes, whatever follows them.
  have split : buffer ++ rest = buffer.take length ++ (buffer.drop length ++ rest) := by
    rw [← List.append_assoc, List.take_append_drop]
  rw [split]
  exact framer.stable found _

/-- An empty buffer holds no frame. -/
@[simp] theorem frame_nil : framer.frame [] = none := by
  -- A frame of an empty buffer would have to be both empty and not empty.
  cases found : framer.frame [] with
  | none => rfl
  | some length =>
    have positive := framer.positive found
    have bounded := framer.bounded found
    simp only [List.length_nil] at bounded
    omega

/-- Removing the first frame leaves a shorter buffer. -/
theorem drop_shorter {buffer : List β} {length : Nat} (found : framer.frame buffer = some length) :
    (buffer.drop length).length < buffer.length := by
  -- A frame is not empty and lies within the buffer.
  have positive := framer.positive found
  have bounded := framer.bounded found
  simp only [List.length_drop]
  omega

/-- The complete frames at the start of a buffer, and the bytes that follow them. -/
def frames (buffer : List β) : List (List β) × List β :=
  match _found : framer.frame buffer with
  | none => ([], buffer)
  -- The first frame is cut off, and the same is done with what is left.
  | some length =>
    (buffer.take length :: (frames (buffer.drop length)).1, (frames (buffer.drop length)).2)
termination_by buffer.length
decreasing_by all_goals exact framer.drop_shorter _found

/-- A buffer without a complete frame is all tail. -/
theorem frames_of_none {buffer : List β} (none_ : framer.frame buffer = none) :
    framer.frames buffer = ([], buffer) := by
  -- The definition looks at the buffer once, and what it would find there is excluded.
  rw [frames]
  split
  · rfl
  · simp_all

/-- The first frame comes first. -/
theorem frames_of_some {buffer : List β} {length : Nat}
    (found : framer.frame buffer = some length) :
    framer.frames buffer = (buffer.take length :: (framer.frames (buffer.drop length)).1,
      (framer.frames (buffer.drop length)).2) := by
  -- The length that the definition finds is the given one, because the rule is a function.
  rw [frames]
  split
  · simp_all
  · rename_i length' found'
    obtain rfl : length = length' := by simpa [found] using found'
    rfl

/-- The frames and the tail make up the buffer. -/
theorem frames_flatten (buffer : List β) :
    (framer.frames buffer).1.flatten ++ (framer.frames buffer).2 = buffer := by
  -- The induction follows the frames as they are cut off.
  induction buffer using Framer.frames.induct framer with
  | case1 buffer none_ => simp [frames_of_none framer none_]
  | case2 buffer length found ih =>
    rw [frames_of_some framer found]
    simp [ih]

/-- The tail holds no complete frame. -/
theorem frame_tail (buffer : List β) : framer.frame (framer.frames buffer).2 = none := by
  -- The tail is the first remainder in which the rule finds nothing.
  induction buffer using Framer.frames.induct framer with
  | case1 buffer none_ => rw [frames_of_none framer none_]; exact none_
  | case2 buffer length found ih => rw [frames_of_some framer found]; exact ih

/-- What follows a buffer joins its tail, and leaves its frames alone. -/
theorem frames_append (first second : List β) :
    framer.frames (first ++ second) =
      ((framer.frames first).1 ++ (framer.frames ((framer.frames first).2 ++ second)).1,
        (framer.frames ((framer.frames first).2 ++ second)).2) := by
  -- The induction follows the frames of the first part.
  induction first using Framer.frames.induct framer with
  | case1 buffer none_ => simp [frames_of_none framer none_]
  | case2 buffer length found ih =>
    -- A frame that is complete in the first part is cut off before the second part is looked at.
    have bounded := framer.bounded found
    rw [frames_of_some framer found, frames_of_some framer (framer.frame_append found second),
      List.take_append_of_le_length bounded, List.drop_append_of_le_length bounded, ih]
    rfl

section Processing

/-! Processing frames one by one until the state is no longer live. -/

variable (handle : List β → σ → σ) (live : σ → Bool)

/-- Processing listed frames in order, up to and including the first one that ends liveness. -/
def process : List (List β) → σ → σ
  -- The state that a frame leads to decides whether the next frame is looked at.
  | [], state => state
  | frame :: rest, state =>
    let state := handle frame state
    if live state then process rest state else state

/-- Processing the complete frames of a buffer, which keeps the bytes that were not processed. -/
def drain (buffer : List β) (state : σ) : List β × σ :=
  match _found : framer.frame buffer with
  | none => (buffer, state)
  | some length =>
    -- A frame that ends liveness is removed from the buffer like any other.
    let state := handle (buffer.take length) state
    if live state then drain (buffer.drop length) state else (buffer.drop length, state)
termination_by buffer.length
decreasing_by exact framer.drop_shorter _found

/-- Receiving a chunk: it joins the kept bytes, unless the state has stopped being live. -/
def feed (intake : List β × σ) (chunk : List β) : List β × σ :=
  if live intake.2 then framer.drain handle live (intake.1 ++ chunk) intake.2 else intake

/-- Without a complete frame nothing is processed. -/
theorem drain_of_none {buffer : List β} (none_ : framer.frame buffer = none) (state : σ) :
    framer.drain handle live buffer state = (buffer, state) := by
  -- Without a frame the loop does not take another turn.
  rw [drain]
  split
  · rfl
  · simp_all

/-- The first frame is processed first. -/
theorem drain_of_some {buffer : List β} {length : Nat}
    (found : framer.frame buffer = some length) (state : σ) :
    framer.drain handle live buffer state =
      if live (handle (buffer.take length) state) then
        framer.drain handle live (buffer.drop length) (handle (buffer.take length) state)
      else (buffer.drop length, handle (buffer.take length) state) := by
  -- As above, the definition finds the given length.
  rw [drain]
  split
  · simp_all
  · rename_i length' found'
    obtain rfl : length = length' := by simpa [found] using found'
    rfl

/-- Two intakes agree when their states do, and their kept bytes as long as the states are live. -/
def Agree (first second : List β × σ) : Prop :=
  first.2 = second.2 ∧ (live second.2 = true → first.1 = second.1)

namespace Agree

variable {live} {first second third : List β × σ}

/-- An intake agrees with itself. -/
theorem refl (intake : List β × σ) : Agree live intake intake := ⟨rfl, fun _ => rfl⟩

/-- It does not matter which intake is compared with which. -/
theorem symm (agree : Agree live first second) : Agree live second first := by
  obtain ⟨sameState, sameBuffer⟩ := agree
  refine ⟨sameState.symm, fun still => (sameBuffer ?_).symm⟩
  -- The other side is live as well, since the states are the same.
  rw [← sameState]
  exact still

/-- Intakes that agree with a third one agree. -/
theorem trans (before : Agree live first second) (after : Agree live second third) :
    Agree live first third := by
  refine ⟨before.1.trans after.1, fun still => ?_⟩
  -- The state in the middle is that of the third intake, and so it is live as well.
  have alive : live second.2 = true := by rw [after.1]; exact still
  exact (before.2 alive).trans (after.2 still)

end Agree

/-- Intakes that agree still agree when they receive the same chunk. -/
theorem Agree.feed {first second : List β × σ} (agree : Agree live first second)
    (chunk : List β) :
    Agree live (framer.feed handle live first chunk) (framer.feed handle live second chunk) := by
  by_cases alive : live second.2 = true
  · -- Live intakes that agree are the same.
    rw [Prod.ext (agree.2 alive) agree.1]
    exact .refl _
  · -- Otherwise both ignore the chunk.
    have ended : ¬ live first.2 = true := by rw [agree.1]; exact alive
    rw [Framer.feed, if_neg ended, Framer.feed, if_neg alive]
    exact agree

/-- A buffer is processed frame by frame, and a live state keeps exactly the incomplete tail. -/
theorem drain_agree (buffer : List β) {state : σ} (alive : live state = true) :
    Agree live (framer.drain handle live buffer state)
      ((framer.frames buffer).2, process handle live (framer.frames buffer).1 state) := by
  -- Frames are cut off in the order in which they are processed.
  induction buffer using Framer.frames.induct framer generalizing state with
  | case1 buffer none_ =>
    rw [drain_of_none framer handle live none_, frames_of_none framer none_]
    exact .refl _
  | case2 buffer length found ih =>
    rw [drain_of_some framer handle live found, frames_of_some framer found]
    simp only [process]
    -- Processing goes on with the rest of the buffer unless the first frame ends liveness.
    by_cases next : live (handle (buffer.take length) state) = true
    · rw [if_pos next, if_pos next]
      exact ih next
    · rw [if_neg next, if_neg next]
      exact ⟨rfl, fun still => absurd still next⟩

/-- Draining a longer buffer is draining its start and then what is left with the rest. -/
theorem drain_append (first second : List β) {state : σ} (alive : live state = true) :
    Agree live
      (framer.feed handle live (framer.drain handle live first state) second)
      (framer.drain handle live (first ++ second) state) := by
  -- The frames of the first part are processed first in both cases.
  induction first using Framer.frames.induct framer generalizing state with
  | case1 buffer none_ =>
    rw [drain_of_none framer handle live none_, Framer.feed, if_pos alive]
    exact .refl _
  | case2 buffer length found ih =>
    have bounded := framer.bounded found
    rw [drain_of_some framer handle live found,
      drain_of_some framer handle live (framer.frame_append found second),
      List.take_append_of_le_length bounded, List.drop_append_of_le_length bounded]
    by_cases next : live (handle (buffer.take length) state) = true
    · -- The rest of the first part is shorter, and the state is still live.
      rw [if_pos next, if_pos next]
      exact ih next
    · -- The state has ended, so the second part is ignored on both sides.
      rw [if_neg next, if_neg next, Framer.feed, if_neg next]
      exact ⟨rfl, fun still => absurd still next⟩

/--
However a stream is cut into chunks, it is processed as it is when it arrives at once.

What was kept from before the stream holds no complete frame, and stands in front of it.
-/
theorem feed_chunks {kept : List β} (incomplete : framer.frame kept = none)
    (chunks : List (List β)) {state : σ} (alive : live state = true) :
    Agree live (chunks.foldl (framer.feed handle live) (kept, state))
      (framer.drain handle live (kept ++ chunks.flatten) state) := by
  -- The chunks received so far stand for their concatenation, which grows at its end.
  induction chunks using List.reverseRecOn with
  | nil =>
    rw [List.flatten_nil, List.append_nil, drain_of_none framer handle live incomplete]
    exact .refl _
  | append_singleton chunks chunk ih =>
    rw [List.foldl_append, List.foldl_cons, List.foldl_nil, List.flatten_append,
      List.flatten_singleton, ← List.append_assoc]
    exact (ih.feed framer handle live chunk).trans
      (framer.drain_append handle live (kept ++ chunks.flatten) chunk alive)

/-- Two ways of cutting one stream into chunks lead to the same result. -/
theorem feed_chunks_agree {kept : List β} (incomplete : framer.frame kept = none)
    {first second : List (List β)} (same : first.flatten = second.flatten)
    {state : σ} (alive : live state = true) :
    Agree live (first.foldl (framer.feed handle live) (kept, state))
      (second.foldl (framer.feed handle live) (kept, state)) := by
  -- Both ways amount to draining the whole stream at once.
  have left := framer.feed_chunks handle live incomplete first alive
  have right := framer.feed_chunks handle live incomplete second alive
  rw [same] at left
  exact left.trans right.symm

/-- Processing handles a prefix of the frames, all of whose shorter prefixes leave a live state. -/
theorem process_prefix (frames : List (List β)) {state : σ} (alive : live state = true) :
    ∃ count ≤ frames.length,
      process handle live frames state =
        (frames.take count).foldl (fun state frame => handle frame state) state ∧
      (∀ fewer < count, live ((frames.take fewer).foldl
        (fun state frame => handle frame state) state) = true) ∧
      (live (process handle live frames state) = true → count = frames.length) := by
  -- The first frame is always processed, so the count starts at one unless there is no frame.
  induction frames generalizing state with
  | nil => exact ⟨0, Nat.le_refl 0, rfl, by simp, fun _ => rfl⟩
  | cons frame rest ih =>
    simp only [process]
    by_cases next : live (handle frame state) = true
    · -- The count of the rest is one short, because it leaves the first frame out.
      obtain ⟨count, bounded, result, before, after⟩ := ih next
      -- Shorter prefixes are empty, or begin with the first frame as well.
      refine ⟨count + 1, by simpa using bounded, by simpa [next] using result, ?_, ?_⟩
      · intro fewer below
        cases fewer with
        | zero => simpa using alive
        | succ fewer => simpa using before fewer (by omega)
      · intro still
        simp only [next, if_true] at still
        simpa using after still
    · -- The first frame was the last one to be processed.
      refine ⟨1, by simp, by simp [next], ?_, ?_⟩
      · intro fewer below
        obtain rfl : fewer = 0 := by omega
        simpa using alive
      · intro still
        simp only [next] at still
        exact absurd still next

end Processing

end Framer
