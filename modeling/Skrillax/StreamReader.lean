/-
**Putting massive packets together.**

`StreamReader::start_loop` takes the frames of a connection one by one.  The header of a massive packet
announces an opcode and a number of containers, and the reader counts them down.  The count is lowered
only after a container has been deserialized, and a header may announce no container at all; exactly these
two cases make the reader lose track of the containers.

Main definitions:

* `StreamReader`, `StreamReader.nextFrame` — the reader, and what `next` does with one frame;
* `LoopState`, `loopStep` — what `start_loop` does with one frame;
* `StaysFramed` — the containers of a run are counted as their headers announce them;
* `StepCounts` — the condition on a frame under which the reader keeps track.

Main results:

* `loopStep_pending` — containers are counted down;
* `staysFramed_iff` — **the reader keeps track of the containers of a run exactly when every step meets
  the condition**.
-/

import Skrillax.FrameDecoder
import Skrillax.PartialAction
import Skrillax.RustInt
import Skrillax.Serialization

set_option relaxedAutoImplicit false
set_option autoImplicit false

namespace Skrillax

open Rust PartialAction

inductive ProtocolError where
  | unknownOpcode (opcode : UInt16)
  | serializationError (e : SerializationError)
  | strayMassivePacket
  deriving DecidableEq, Repr

inductive StreamError where
  | incompleteHandshake
  | frameError (e : FrameError)
  | protocolError (e : ProtocolError)
  | streamClosed
  | unconsumedMassivePacket (remaining : UInt16)
  deriving DecidableEq, Repr

/-- The opcode and the number of containers of the massive packet that is being received. -/
structure StreamReader where
  massivePacket : Option (UInt16 × UInt16)
  deriving DecidableEq, Repr

section Reader

variable {ClientPacket : Type} (p : Profile)
  (deserialize : UInt16 → Bytes → Except ProtocolError ClientPacket)

/-- What `StreamReader::next` does with a frame: it returns a result, or goes on to the next frame.  The
subtraction may panic. -/
def StreamReader.nextFrame (reader : StreamReader) (frame : SilkroadFrame) :
    Option (Option (Except StreamError ClientPacket) × StreamReader) :=
  match frame with
  | .packet _ _ opcode _ data =>
      some (some ((deserialize opcode data).mapError .protocolError), reader)
  | .massiveHeader _ _ containedOpcode containedCount =>
      match reader.massivePacket with
      | some (_, remaining) => some (some (.error (.unconsumedMassivePacket remaining)), reader)
      | none => some (none, { massivePacket := some (containedOpcode, containedCount) })
  | .massiveContainer _ _ inner =>
      match reader.massivePacket with
      | some (opcode, count) =>
          match deserialize opcode inner with
          | .error e => some (some (.error (.protocolError e)), reader)
          | .ok result => do
              let newCount ← p.subU16 count 1
              if 0 < newCount then
                some (some (.ok result), { massivePacket := some (opcode, newCount) })
              else
                some (some (.ok result), { massivePacket := none })
      | none => some (some (.error (.protocolError .strayMassivePacket)), reader)

/-- The reader, and whether `start_loop` still calls it. -/
structure LoopState where
  reader : StreamReader
  running : Bool
  deriving DecidableEq, Repr

/-- Whether `start_loop` goes on: it does after a packet, which it passes on, and after a protocol error,
which it logs. -/
def goesOn : Option (Except StreamError ClientPacket) → Bool
  | none => true
  | some (.ok _) => true
  | some (.error (.protocolError _)) => true
  | some (.error _) => false

/-- What `start_loop` does with the next frame. -/
def loopStep (frame : SilkroadFrame) (s : LoopState) : Option LoopState :=
  if s.running then do
    let (result, reader) ← s.reader.nextFrame p deserialize frame
    return { reader, running := goesOn result }
  else
    some s

def LoopState.start : LoopState := { reader := { massivePacket := none }, running := true }

/-! ### The countdown -/

/-- The reader waits for `n` more containers. -/
def waiting (opcode n : UInt16) : LoopState :=
  { reader := { massivePacket := if n = 0 then none else some (opcode, n) }, running := true }

/-- The count from which the reader subtracts for this frame. -/
def subtractedFrom (s : LoopState) (frame : SilkroadFrame) : Option UInt16 :=
  match frame, s.reader.massivePacket with
  | .massiveContainer _ _ inner, some (opcode, count) =>
      if s.running ∧ (deserialize opcode inner).toBool then some count else none
  | _, _ => none

def IsHeader : SilkroadFrame → Prop
  | .massiveHeader .. => True
  | _ => False

def isContainer : SilkroadFrame → Bool
  | .massiveContainer .. => true
  | _ => false

/-- The containers of a run are counted as their headers announce them. -/
structure StaysFramed (frames : List SilkroadFrame) : Prop where
  /-- The reader never waits for no container. -/
  positive : Reached (loopStep p deserialize)
    (fun s => ∀ opcode n, s.reader.massivePacket = some (opcode, n) → 1 ≤ n) frames LoopState.start
  /-- The subtraction does not underflow. -/
  noUnderflow : ∀ pre frame s count, pre ++ [frame] <+: frames →
    runAll (loopStep p deserialize) pre LoopState.start = some s →
      subtractedFrom deserialize s frame = some count → 1 ≤ count
  /-- After a header that announces `n` containers, the next `n` containers belong to its opcode, and
  then the reader is back to none. -/
  attributed : ∀ pre count crc opcode n mid,
    pre ++ .massiveHeader count crc opcode n :: mid <+: frames → 1 ≤ n →
      runAll (loopStep p deserialize) pre LoopState.start = some LoopState.start →
        (∀ frame ∈ mid, ¬ IsHeader frame) → mid.countP isContainer ≤ n.toNat →
          runAll (loopStep p deserialize) (pre ++ .massiveHeader count crc opcode n :: mid)
            LoopState.start = some (waiting opcode (n - UInt16.ofNat (mid.countP isContainer)))

/-- A header that is accepted announces at least one container, and a container that is waited for can be
deserialized. -/
def StepCounts (s : LoopState) (frame : SilkroadFrame) : Prop :=
  s.running = true →
    match frame, s.reader.massivePacket with
    | .massiveHeader _ _ _ n, none => 1 ≤ n
    | .massiveContainer _ _ inner, some (opcode, _) => (deserialize opcode inner).toBool = true
    | _, _ => True

variable {p deserialize}

theorem loopStep_stopped {s : LoopState} (h : s.running = false) (frame : SilkroadFrame) :
    loopStep p deserialize frame s = some s := by
  simp [loopStep, h]

theorem running_of_loopStep {s t : LoopState} {frame : SilkroadFrame}
    (h : loopStep p deserialize frame s = some t) (ht : t.running = true) : s.running = true := by
  cases hs : s.running with
  | true => rfl
  | false =>
      rw [loopStep_stopped hs, Option.some_inj] at h
      rw [← h, hs] at ht
      exact ht

theorem ne_zero_of_one_le {n : UInt16} (h : 1 ≤ n) : n ≠ 0 := by
  rintro rfl
  exact absurd h (by decide)

theorem forall_not_isHeader_concat {mid : List SilkroadFrame} {frame : SilkroadFrame}
    (hmid : ∀ f ∈ mid, ¬ IsHeader f) (hframe : ¬ IsHeader frame) :
    ∀ f ∈ mid ++ [frame], ¬ IsHeader f := by
  intro f hf
  rcases List.mem_append.1 hf with hf | hf
  · exact hmid f hf
  · rwa [List.mem_singleton.1 hf]

/-- The reader waits for some containers, or for none. -/
theorem eq_waiting {s : LoopState} (hrunning : s.running = true)
    (hpositive : ∀ opcode n, s.reader.massivePacket = some (opcode, n) → 1 ≤ n) :
    ∃ opcode n, s = waiting opcode n := by
  obtain ⟨⟨packet⟩, running⟩ := s
  obtain rfl : running = true := hrunning
  rcases packet with _ | ⟨opcode, n⟩
  · exact ⟨0, 0, rfl⟩
  · refine ⟨opcode, n, ?_⟩
    have hn : n ≠ 0 := ne_zero_of_one_le (hpositive opcode n rfl)
    simp [waiting, hn]

theorem waiting_zero (opcode : UInt16) : waiting opcode 0 = LoopState.start := rfl

theorem waiting_massivePacket {opcode n : UInt16} (h : n ≠ 0) :
    (waiting opcode n).reader.massivePacket = some (opcode, n) := by
  simp [waiting, h]

theorem loopStep_packet (opcode n : UInt16) (count crc : UInt8) (op : UInt16) (encrypted : Bool)
    (data : Bytes) :
    loopStep p deserialize (.packet count crc op encrypted data) (waiting opcode n) =
      some (waiting opcode n) := by
  cases hdata : deserialize op data with
  | error e => simp [loopStep, waiting, StreamReader.nextFrame, hdata, Except.mapError, goesOn]
  | ok result => simp [loopStep, waiting, StreamReader.nextFrame, hdata, Except.mapError, goesOn]

theorem loopStep_header (count crc : UInt8) (opcode n : UInt16) :
    loopStep p deserialize (.massiveHeader count crc opcode n) LoopState.start =
      some { reader := { massivePacket := some (opcode, n) }, running := true } := rfl

/-- A header that comes too early ends the loop. -/
theorem loopStep_header_early {opcode n : UInt16} (h : n ≠ 0) (count crc : UInt8) (op m : UInt16) :
    loopStep p deserialize (.massiveHeader count crc op m) (waiting opcode n) =
      some { waiting opcode n with running := false } := by
  simp [loopStep, waiting, StreamReader.nextFrame, h, goesOn]

/-- A container that nobody waits for. -/
theorem loopStep_stray (count crc : UInt8) (inner : Bytes) :
    loopStep p deserialize (.massiveContainer count crc inner) LoopState.start =
      some LoopState.start := rfl

/-- A container that cannot be deserialized is not counted. -/
theorem loopStep_undecodable {opcode n : UInt16} (h : n ≠ 0) {inner : Bytes}
    (hinner : (deserialize opcode inner).toBool = false) (count crc : UInt8) :
    loopStep p deserialize (.massiveContainer count crc inner) (waiting opcode n) =
      some (waiting opcode n) := by
  cases hdata : deserialize opcode inner with
  | error e => simp [loopStep, waiting, StreamReader.nextFrame, h, hdata, goesOn]
  | ok result =>
      rw [hdata] at hinner
      cases hinner

theorem loopStep_container {opcode n : UInt16} (h : n ≠ 0) {inner : Bytes}
    (hinner : (deserialize opcode inner).toBool = true) (count crc : UInt8) :
    loopStep p deserialize (.massiveContainer count crc inner) (waiting opcode n) =
      some (waiting opcode (n - 1)) := by
  cases hdata : deserialize opcode inner with
  | error e =>
      rw [hdata] at hinner
      cases hinner
  | ok result =>
      have hle : (1 : UInt16) ≤ n := by
        rw [UInt16.le_iff_toNat_le]
        have : n.toNat ≠ 0 := fun hz => h (UInt16.toNat_inj.1 hz)
        show 1 ≤ n.toNat
        omega
      have hsub : p.subU16 n 1 = some (n - 1) := Profile.subU16_eq_some.2 ⟨rfl, Or.inl hle⟩
      simp only [loopStep, waiting, StreamReader.nextFrame, h, hdata, if_true, if_false, hsub]
      by_cases hzero : n - 1 = 0
      · simp [hzero, goesOn]
      · have hpos : 0 < n - 1 := UInt16.pos_iff_ne_zero.2 hzero
        simp [hzero, hpos, goesOn]

variable (p deserialize) in
/-- A reader that waits does not panic. -/
theorem loopStep_defined (opcode n : UInt16) (frame : SilkroadFrame) :
    ∃ t, loopStep p deserialize frame (waiting opcode n) = some t := by
  cases frame with
  | packet count crc op encrypted data => exact ⟨_, loopStep_packet opcode n count crc op encrypted data⟩
  | massiveHeader count crc op m =>
      by_cases hn : n = 0
      · exact ⟨_, by rw [hn]; exact loopStep_header count crc op m⟩
      · exact ⟨_, loopStep_header_early hn count crc op m⟩
  | massiveContainer count crc inner =>
      by_cases hn : n = 0
      · exact ⟨_, by rw [hn]; exact loopStep_stray count crc inner⟩
      · cases hinner : (deserialize opcode inner).toBool with
        | true => exact ⟨_, loopStep_container hn hinner count crc⟩
        | false => exact ⟨_, loopStep_undecodable hn hinner count crc⟩

/-- **Containers are counted down**: a frame that is no header, at a reader that waits for `n`
containers. -/
theorem loopStep_pending {opcode n : UInt16} {frame : SilkroadFrame} (hheader : ¬ IsHeader frame)
    (hcond : StepCounts deserialize (waiting opcode n) frame)
    (hcount : [frame].countP isContainer ≤ n.toNat) :
    loopStep p deserialize frame (waiting opcode n) =
      some (waiting opcode (n - UInt16.ofNat ([frame].countP isContainer))) := by
  cases frame with
  | packet count crc op encrypted data =>
      rw [loopStep_packet]
      simp [isContainer]
  | massiveHeader => exact absurd trivial hheader
  | massiveContainer count crc inner =>
      have hn : n ≠ 0 := by
        rintro rfl
        simp [isContainer] at hcount
      have hinner : (deserialize opcode inner).toBool = true := by
        have := hcond rfl
        rwa [waiting_massivePacket hn] at this
      rw [loopStep_container hn hinner]
      simp [isContainer]

theorem toNat_sub_ofNat {n : UInt16} {k : ℕ} (h : k ≤ n.toNat) :
    (n - UInt16.ofNat k).toNat = n.toNat - k := by
  have hlt : n.toNat < UInt16.size := n.toNat_lt
  have hk : (UInt16.ofNat k).toNat = k := UInt16.toNat_ofNat_of_lt (by omega)
  rw [UInt16.toNat_sub_of_le _ _ (by rw [UInt16.le_iff_toNat_le, hk]; exact h), hk]

/-- The frames after a header, as long as no further containers come than it announces. -/
theorem runAll_pending {opcode : UInt16} {mid : List SilkroadFrame}
    (hheader : ∀ frame ∈ mid, ¬ IsHeader frame) :
    ∀ {n : UInt16}, mid.countP isContainer ≤ n.toNat →
      AllSteps (loopStep p deserialize) (StepCounts deserialize) mid (waiting opcode n) →
        runAll (loopStep p deserialize) mid (waiting opcode n) =
          some (waiting opcode (n - UInt16.ofNat (mid.countP isContainer))) := by
  induction mid with
  | nil =>
      intro n _ _
      simp
  | cons frame mid ih =>
      intro n hcount hsteps
      have hsplit : (frame :: mid).countP isContainer =
          [frame].countP isContainer + mid.countP isContainer := by
        rw [← List.countP_append]
        rfl
      obtain ⟨t, ht⟩ := loopStep_defined p deserialize opcode n frame
      obtain ⟨hcond, hrest⟩ := hsteps t ht
      have hstep : loopStep p deserialize frame (waiting opcode n) = _ :=
        loopStep_pending (hheader frame List.mem_cons_self) hcond (by omega)
      rw [hstep, Option.some_inj] at ht
      subst ht
      have hleft := toNat_sub_ofNat (show [frame].countP isContainer ≤ n.toNat by omega)
      rw [runAll_cons, hstep, Option.bind_some,
        ih (fun f hf => hheader f (List.mem_cons_of_mem _ hf)) (by omega) hrest, hsplit,
        UInt16.ofNat_add, sub_sub]

/-- The frames `pre` end after some frames of a massive packet whose reader waits in the state `s`. -/
def WaitsSinceHeader (p : Profile) (deserialize : UInt16 → Bytes → Except ProtocolError ClientPacket)
    (pre : List SilkroadFrame) (s : LoopState) : Prop :=
  ∃ pre' count crc opcode n mid, pre = pre' ++ .massiveHeader count crc opcode n :: mid ∧ 1 ≤ n ∧
    runAll (loopStep p deserialize) pre' LoopState.start = some LoopState.start ∧
    (∀ frame ∈ mid, ¬ IsHeader frame) ∧ mid.countP isContainer < n.toNat ∧
    s = waiting opcode (n - UInt16.ofNat (mid.countP isContainer))

theorem WaitsSinceHeader.concat {pre : List SilkroadFrame} {s t : LoopState} {frame : SilkroadFrame}
    (h : WaitsSinceHeader p deserialize pre s) (ht : loopStep p deserialize frame s = some t)
    (hcond : StepCounts deserialize s frame) (hrunning : t.running = true) :
    t = LoopState.start ∨ WaitsSinceHeader p deserialize (pre ++ [frame]) t := by
  obtain ⟨pre', count, crc, opcode, n, mid, rfl, hpos, hpre', hmid, hcount, rfl⟩ := h
  have hleft := toNat_sub_ofNat hcount.le
  have hheader : ¬ IsHeader frame := by
    intro hheader
    cases frame with
    | massiveHeader c k op m =>
        have hn : n - UInt16.ofNat (mid.countP isContainer) ≠ 0 := by
          intro hzero
          rw [hzero, UInt16.toNat_zero] at hleft
          omega
        rw [loopStep_header_early hn, Option.some_inj] at ht
        subst ht
        cases hrunning
    | packet => exact hheader
    | massiveContainer => exact hheader
  have hone : [frame].countP isContainer ≤ 1 := List.countP_le_length
  have hstep : loopStep p deserialize frame _ = _ := loopStep_pending hheader hcond (by omega)
  rw [ht, Option.some_inj, sub_sub, ← UInt16.ofNat_add, ← List.countP_append] at hstep
  subst hstep
  have hmid' := forall_not_isHeader_concat hmid hheader
  have hle : (mid ++ [frame]).countP isContainer ≤ n.toNat := by
    rw [List.countP_append]
    omega
  rcases hle.lt_or_eq with hlt | heq
  · exact Or.inr ⟨pre', count, crc, opcode, n, mid ++ [frame], by simp, hpos, hpre', hmid', hlt, rfl⟩
  · left
    rw [heq, UInt16.ofNat_toNat, UInt16.sub_self, waiting_zero]

/-- A reader that waits has got there by a header. -/
theorem waitsSinceHeader {pre : List SilkroadFrame} :
    ∀ {s : LoopState},
      AllSteps (loopStep p deserialize) (StepCounts deserialize) pre LoopState.start →
      runAll (loopStep p deserialize) pre LoopState.start = some s → s.running = true →
        s = LoopState.start ∨ WaitsSinceHeader p deserialize pre s := by
  induction pre using List.reverseRecOn with
  | nil =>
      intro s _ hs _
      exact Or.inl (Option.some_inj.1 hs).symm
  | append_singleton pre frame ih =>
      intro t hsteps ht hrunning
      obtain ⟨hsteps', hlast⟩ := allSteps_concat_iff.1 hsteps
      rw [runAll_append] at ht
      obtain ⟨s, hs, hstep⟩ := Option.bind_eq_some_iff.1 ht
      rw [runAll_singleton] at hstep
      have hcond := hlast s t hs hstep
      rcases ih hsteps' hs (running_of_loopStep hstep hrunning) with rfl | hwaits
      · -- the reader was idle: only a header makes it wait
        cases frame with
        | packet count crc op encrypted data =>
            rw [← waiting_zero 0, loopStep_packet] at hstep
            exact Or.inl (Option.some_inj.1 hstep).symm
        | massiveContainer count crc inner =>
            exact Or.inl (Option.some_inj.1 hstep).symm
        | massiveHeader count crc opcode n =>
            right
            have hpos : 1 ≤ n := hcond rfl
            have hn : n ≠ 0 := ne_zero_of_one_le hpos
            refine ⟨pre, count, crc, opcode, n, [], rfl, hpos, hs, by simp, ?_, ?_⟩
            · exact UInt16.lt_iff_toNat_lt.1 (UInt16.pos_iff_ne_zero.2 hn)
            · rw [← Option.some_inj.1 hstep]
              simp [waiting, hn, goesOn]
      · exact hwaits.concat hstep hcond hrunning

theorem waiting_positive (opcode n : UInt16) :
    ∀ op m, (waiting opcode n).reader.massivePacket = some (op, m) → 1 ≤ m := by
  intro op m h
  by_cases hn : n = 0
  · rw [hn] at h
    cases h
  · rw [waiting_massivePacket hn] at h
    cases h
    rw [UInt16.le_iff_toNat_le]
    exact UInt16.lt_iff_toNat_lt.1 (UInt16.pos_iff_ne_zero.2 hn)

/-- Counting a container down shows. -/
theorem waiting_ne_pred {opcode n : UInt16} (h : n ≠ 0) : waiting opcode n ≠ waiting opcode (n - 1) := by
  intro heq
  have hpacket := congrArg (fun s => s.reader.massivePacket) heq
  simp only [waiting_massivePacket h] at hpacket
  by_cases hn : n - 1 = 0
  · rw [hn] at hpacket
    cases hpacket
  · rw [waiting_massivePacket hn] at hpacket
    have hcount : n = n - 1 := (Prod.mk.inj (Option.some_inj.1 hpacket)).2
    have hone : (1 : UInt16) = 0 := by
      rw [eq_comm, sub_eq_self] at hcount
      exact hcount
    exact absurd hone (by decide)

theorem waiting_of_header {opcode n : UInt16} (h : 1 ≤ n) :
    ({ reader := { massivePacket := some (opcode, n) }, running := true } : LoopState) =
      waiting opcode n := by
  simp [waiting, ne_zero_of_one_le h]

/-- A step that meets the condition does not make the reader wait for no container. -/
theorem loopStep_positive {frame : SilkroadFrame} {s t : LoopState}
    (hs : ∀ opcode n, s.reader.massivePacket = some (opcode, n) → 1 ≤ n)
    (hcond : StepCounts deserialize s frame) (ht : loopStep p deserialize frame s = some t) :
    ∀ opcode n, t.reader.massivePacket = some (opcode, n) → 1 ≤ n := by
  cases hrunning : s.running with
  | false =>
      rw [loopStep_stopped hrunning, Option.some_inj] at ht
      exact ht ▸ hs
  | true =>
      obtain ⟨opcode, n, rfl⟩ := eq_waiting hrunning hs
      cases frame with
      | packet count crc op encrypted data =>
          rw [loopStep_packet, Option.some_inj] at ht
          exact ht ▸ hs
      | massiveHeader count crc op m =>
          by_cases hn : n = 0
          · rw [hn, waiting_zero] at hcond ht
            have hpos : 1 ≤ m := hcond rfl
            rw [loopStep_header, Option.some_inj, waiting_of_header hpos] at ht
            exact ht ▸ waiting_positive op m
          · rw [loopStep_header_early hn, Option.some_inj] at ht
            exact ht ▸ hs
      | massiveContainer count crc inner =>
          by_cases hn : n = 0
          · rw [hn, waiting_zero, loopStep_stray, Option.some_inj] at ht
            exact ht ▸ waiting_positive opcode 0
          · have hinner : (deserialize opcode inner).toBool = true := by
              have := hcond rfl
              rwa [waiting_massivePacket hn] at this
            rw [loopStep_container hn hinner, Option.some_inj] at ht
            exact ht ▸ waiting_positive opcode (n - 1)

theorem staysFramed_of_allSteps {frames : List SilkroadFrame}
    (h : AllSteps (loopStep p deserialize) (StepCounts deserialize) frames LoopState.start) :
    StaysFramed p deserialize frames := by
  have hpositive : Reached (loopStep p deserialize)
      (fun s => ∀ opcode n, s.reader.massivePacket = some (opcode, n) → 1 ≤ n) frames
      LoopState.start :=
    reached_of_allSteps (fun _ _ _ _ hs hcond ht => loopStep_positive hs hcond ht)
      (waiting_positive 0 0) h
  refine ⟨hpositive, ?_, ?_⟩
  · intro pre frame s count hpre hs hsub
    have hs := hpositive pre s ((List.prefix_append pre [frame]).trans hpre) hs
    unfold subtractedFrom at hsub
    split at hsub
    · rename_i opcode n hpacket
      split at hsub
      · cases hsub
        exact hs _ _ hpacket
      · cases hsub
    · cases hsub
  · intro pre count crc opcode n mid hpre hn hidle hheader hcount
    have hsteps := (h.of_prefix hpre).drop hidle
    rw [runAll_append, hidle, Option.bind_some, runAll_cons, loopStep_header, waiting_of_header hn]
    obtain ⟨-, hmid⟩ := hsteps _ (loopStep_header count crc opcode n)
    rw [waiting_of_header hn] at hmid
    exact runAll_pending hheader hcount hmid

theorem StaysFramed.of_prefix {frames pre : List SilkroadFrame} (h : StaysFramed p deserialize frames)
    (hpre : pre <+: frames) : StaysFramed p deserialize pre where
  positive := fun pre' s hpre' hs => h.positive pre' s (hpre'.trans hpre) hs
  noUnderflow := fun pre' frame s count hpre' hs =>
    h.noUnderflow pre' frame s count (hpre'.trans hpre) hs
  attributed := fun pre' count crc opcode n mid hpre' =>
    h.attributed pre' count crc opcode n mid (hpre'.trans hpre)

/-- The last step of a run in which the containers are counted right meets the condition. -/
theorem StaysFramed.last_step {pre : List SilkroadFrame} {frame : SilkroadFrame} {s t : LoopState}
    (h : StaysFramed p deserialize (pre ++ [frame]))
    (hsteps : AllSteps (loopStep p deserialize) (StepCounts deserialize) pre LoopState.start)
    (hs : runAll (loopStep p deserialize) pre LoopState.start = some s)
    (ht : loopStep p deserialize frame s = some t) : StepCounts deserialize s frame := by
  intro hrunning
  have hrun : runAll (loopStep p deserialize) (pre ++ [frame]) LoopState.start = some t := by
    rw [runAll_append, hs, Option.bind_some, runAll_singleton, ht]
  rcases waitsSinceHeader hsteps hs hrunning with
    rfl | ⟨pre', count, crc, opcode, n, mid, rfl, hn, hidle, hheader, hcount, rfl⟩
  · cases frame with
    | packet => trivial
    | massiveContainer => trivial
    | massiveHeader count crc opcode n =>
        rw [loopStep_header, Option.some_inj] at ht
        subst ht
        exact h.positive _ _ (List.prefix_refl _) hrun opcode n rfl
  · have hleft := toNat_sub_ofNat hcount.le
    generalize hm : n - UInt16.ofNat (mid.countP isContainer) = m at *
    have hm0 : m ≠ 0 := by
      rintro rfl
      rw [UInt16.toNat_zero] at hleft
      omega
    cases frame with
    | packet => trivial
    | massiveHeader =>
        rw [waiting_massivePacket hm0]
        trivial
    | massiveContainer c k inner =>
        rw [waiting_massivePacket hm0]
        by_contra hinner
        -- the container is not counted, but the header has announced it
        rw [loopStep_undecodable hm0 (by simpa using hinner), Option.some_inj] at ht
        subst ht
        have hmid : ∀ f ∈ mid ++ [.massiveContainer c k inner], ¬ IsHeader f :=
          forall_not_isHeader_concat hheader id
        have hone : (mid ++ [SilkroadFrame.massiveContainer c k inner]).countP isContainer =
            mid.countP isContainer + 1 := by
          rw [List.countP_append]
          rfl
        have hattributed := h.attributed pre' count crc opcode n
          (mid ++ [.massiveContainer c k inner]) (by simp) hn hidle hmid (by omega)
        rw [← List.cons_append, ← List.append_assoc, hrun, Option.some_inj, hone, UInt16.ofNat_add,
          ← sub_sub, hm] at hattributed
        exact waiting_ne_pred hm0 hattributed

/-- **The reader keeps track of the containers of a run exactly when every step meets the condition**:
no accepted header announces no container, and every container that is waited for is deserialized. -/
theorem staysFramed_iff (frames : List SilkroadFrame) :
    StaysFramed p deserialize frames ↔
      AllSteps (loopStep p deserialize) (StepCounts deserialize) frames LoopState.start := by
  refine ⟨fun h => ?_, staysFramed_of_allSteps⟩
  induction frames using List.reverseRecOn with
  | nil => trivial
  | append_singleton frames frame ih =>
      have hsteps := ih (h.of_prefix (List.prefix_append frames [frame]))
      exact allSteps_concat_iff.2 ⟨hsteps, fun s t hs ht => h.last_step hsteps hs ht⟩

end Reader

/-- A massive packet without containers: the reader waits for none. -/
theorem empty_massive_packet_not_framed :
    ¬ StaysFramed .debug (fun opcode _ => (.error (.unknownOpcode opcode) : Except ProtocolError Unit))
      [.massiveHeader 0 0 0x7025 0] := by
  intro h
  have hpos := h.positive [.massiveHeader 0 0 0x7025 0] _ (List.prefix_refl _) rfl 0x7025 0 rfl
  exact absurd hpos (by decide)

end Skrillax
