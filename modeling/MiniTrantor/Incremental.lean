import Mathlib

/-!
# Incremental decoding

A decoder takes one frame from the front of the bytes at hand, asks for more
bytes, or rejects the input for good. A verdict other than "more" does not
change when bytes are added at the end. Everything a reader finds in a stream
is then fixed by the stream, however the bytes arrive.
-/

set_option autoImplicit false

namespace MiniTrantor.Incremental

variable {Byte Frame Fault : Type}

inductive Verdict (Frame Fault : Type) where
  | needMore
  | fault (fault : Fault)
  | complete (frame : Frame) (consumed : Nat)

structure Decoder (Byte Frame Fault : Type) where
  decode : List Byte → Verdict Frame Fault
  consumes : ∀ {data frame consumed}, decode data = .complete frame consumed →
    0 < consumed ∧ consumed ≤ data.length
  complete_stable : ∀ {data frame consumed}, decode data = .complete frame consumed →
    ∀ more, decode (data ++ more) = .complete frame consumed
  fault_stable : ∀ {data fault}, decode data = .fault fault →
    ∀ more, decode (data ++ more) = .fault fault

variable {decoder : Decoder Byte Frame Fault}

/-- The given frames stand one after another at the front of the data. -/
inductive Advances (decoder : Decoder Byte Frame Fault) :
    List Byte → List Frame → Nat → Prop where
  | refl (data) : Advances decoder data [] 0
  | step {data frame count frames rest} : decoder.decode data = .complete frame count →
      Advances decoder (data.drop count) frames rest →
      Advances decoder data (frame :: frames) (count + rest)

namespace Advances

variable {data : List Byte} {frames later : List Frame} {count rest : Nat}

theorem bounded (advances : Advances decoder data frames count) : count ≤ data.length := by
  induction advances with
  | refl => exact Nat.zero_le _
  | step complete _ ih =>
      have bounds := decoder.consumes complete
      rw [List.length_drop] at ih
      omega

/-- Every frame takes at least one byte. -/
theorem frames_le (advances : Advances decoder data frames count) : frames.length ≤ count := by
  induction advances with
  | refl => exact Nat.le_refl _
  | step complete _ ih =>
      have bounds := decoder.consumes complete
      rw [List.length_cons]
      omega

theorem extend (advances : Advances decoder data frames count) (more : List Byte) :
    Advances decoder (data ++ more) frames count := by
  induction advances with
  | refl => exact .refl _
  | @step data frame count frames rest complete _ ih =>
      have bounds := decoder.consumes complete
      rw [← List.drop_append_of_le_length bounds.2] at ih
      exact .step (decoder.complete_stable complete more) ih

theorem trans (first : Advances decoder data frames count)
    (second : Advances decoder (data.drop count) later rest) :
    Advances decoder data (frames ++ later) (count + rest) := by
  induction first with
  | refl => simpa using second
  | @step data frame count frames middle complete _ ih =>
      rw [Nat.add_assoc]
      refine .step complete (ih ?_)
      rwa [List.drop_drop]

end Advances

/-- Why a reader stops at a position: no bytes are left, the bytes left are too
few, or they are rejected. -/
inductive Ending (Fault : Type) where
  | drained
  | needMore
  | fault (fault : Fault)

/-- The way the rest of the data ends the reading. -/
inductive Stops (decoder : Decoder Byte Frame Fault) : List Byte → Ending Fault → Prop where
  | drained : Stops decoder [] .drained
  | needMore {data} : data ≠ [] → decoder.decode data = .needMore → Stops decoder data .needMore
  | fault {data fault} : data ≠ [] → decoder.decode data = .fault fault →
      Stops decoder data (.fault fault)

/-- The complete reading of the data. -/
structure Reading (decoder : Decoder Byte Frame Fault) (data : List Byte) (frames : List Frame)
    (count : Nat) (ending : Ending Fault) : Prop where
  advances : Advances decoder data frames count
  stops : Stops decoder (data.drop count) ending

variable {data : List Byte} {frames later : List Frame} {count rest : Nat} {ending other : Ending Fault}

theorem Stops.unique (first : Stops decoder data ending) (second : Stops decoder data other) :
    ending = other := by
  cases first with
  | drained =>
      cases second with
      | drained => rfl
      | needMore nonempty _ => exact absurd rfl nonempty
      | fault nonempty _ => exact absurd rfl nonempty
  | needMore nonempty decoded =>
      cases second with
      | drained => exact absurd rfl nonempty
      | needMore _ _ => rfl
      | fault _ decoded' => exact absurd (decoded.symm.trans decoded') (by simp)
  | fault nonempty decoded =>
      cases second with
      | drained => exact absurd rfl nonempty
      | needMore _ decoded' => exact absurd (decoded.symm.trans decoded') (by simp)
      | fault _ decoded' =>
          have same := decoded.symm.trans decoded'
          rw [Verdict.fault.injEq] at same
          rw [same]

/-- Where the reading stops no frame is complete. -/
theorem Stops.incomplete (stops : Stops decoder data ending) {frame : Frame}
    (complete : decoder.decode data = .complete frame count) : False := by
  cases stops with
  | drained =>
      have bounds := decoder.consumes complete
      rw [List.length_nil] at bounds
      omega
  | needMore _ decoded => exact absurd (complete.symm.trans decoded) (by simp)
  | fault _ decoded => exact absurd (complete.symm.trans decoded) (by simp)

theorem Stops.fault_extend {fault : Fault} (stops : Stops decoder data (.fault fault))
    (more : List Byte) : Stops decoder (data ++ more) (.fault fault) := by
  cases stops with
  | fault nonempty decoded =>
      exact .fault (List.append_ne_nil_of_left_ne_nil nonempty _) (decoder.fault_stable decoded more)

namespace Reading

theorem unique (first : Reading decoder data frames count ending)
    (second : Reading decoder data later rest other) :
    frames = later ∧ count = rest ∧ ending = other := by
  obtain ⟨advances, stops⟩ := first
  obtain ⟨advances', stops'⟩ := second
  induction advances generalizing later rest with
  | refl data =>
      cases advances' with
      | refl => exact ⟨rfl, rfl, stops.unique stops'⟩
      | step complete _ => exact (stops.incomplete complete).elim
  | @step data frame count frames middle complete _ ih =>
      cases advances' with
      | refl => exact (stops'.incomplete complete).elim
      | @step _ frame' count' frames' middle' complete' advances' =>
          have same := complete.symm.trans complete'
          rw [Verdict.complete.injEq] at same
          obtain ⟨rfl, rfl⟩ := same
          rw [← List.drop_drop] at stops stops'
          obtain ⟨rfl, rfl, rfl⟩ := ih stops advances' stops'
          exact ⟨rfl, rfl, rfl⟩

theorem prepend (first : Advances decoder data frames count)
    (second : Reading decoder (data.drop count) later rest ending) :
    Reading decoder data (frames ++ later) (count + rest) ending where
  advances := first.trans second.advances
  stops := by
    rw [← List.drop_drop]
    exact second.stops

/-- A rejected stream stays rejected. -/
theorem fault_extend {fault : Fault} (reading : Reading decoder data frames count (.fault fault))
    (more : List Byte) : Reading decoder (data ++ more) frames count (.fault fault) where
  advances := reading.advances.extend more
  stops := by
    rw [List.drop_append_of_le_length reading.advances.bounded]
    exact reading.stops.fault_extend more

end Reading

end MiniTrantor.Incremental
