/-
**Decoding the byte stream of a connection into frames.**

`SilkroadFrameDecoder::decode` parses a frame off the front of the receive buffer.  The decision of the
parser depends on the length field and on the bytes it announces only, so that it is final in the sense
of `StreamDecoding.Decoder`, and the frames of a connection do not depend on how the network cuts the
stream.

Main definitions:

* `SilkroadFrameDecoder`, `SilkroadFrameDecoder.decode` — the decoder of the codec;
* `SilkroadFrameDecoder.stream` — the decoder as one whose decisions are final.

Main results:

* `SilkroadFrame.parse_extend` — more bytes do not change what is parsed;
* `SilkroadFrameDecoder.cuts_do_not_matter` — **the frames of a stream do not depend on its cuts**.
-/

import Skrillax.Frame
import Skrillax.StreamDecoding

set_option relaxedAutoImplicit false
set_option autoImplicit false

namespace Skrillax

open Rust StreamDecoding

/-! ### The parser decides on the bytes of the frame -/

namespace SilkroadFrame

theorem firstWord_append {data : Bytes} (h : 4 ≤ data.length) (ext : Bytes) :
    firstWord (data ++ ext) = firstWord data := by
  rw [firstWord, firstWord, List.take_append_of_le_length (by omega)]

theorem frameBytes_append {data : Bytes} (h : 4 ≤ data.length)
    (htotal : totalSize (firstWord data) + 2 ≤ data.length) (ext : Bytes) :
    frameBytes (data ++ ext) = frameBytes data := by
  rw [frameBytes, frameBytes, firstWord_append h, List.drop_append_of_le_length (by omega),
    List.take_append_of_le_length (by rw [List.length_drop]; omega)]

/-- More bytes do not change what is parsed. -/
theorem parse_extend {data : Bytes} {security : Option SilkroadSecurity}
    (h : parse data security ≠ .error (.error .incomplete)) (ext : Bytes) :
    parse (data ++ ext) security = parse data security := by
  by_cases hpartial : data.length < 4 ∨ data.length < totalSize (firstWord data) + 2
  · exact absurd (by rw [parse_eq, if_pos hpartial]) h
  · have hlength : (data ++ ext).length = data.length + ext.length := List.length_append
    rw [parse_eq, parse_eq data, firstWord_append (by omega), frameBytes_append (by omega) (by omega),
      if_neg hpartial, if_neg (by omega)]

theorem parseContent_ok {encrypted : Bool} {n m : ℕ} {content : Bytes} {frame : SilkroadFrame}
    (hlength : 4 ≤ content.length) (h : parseContent encrypted n content = .ok (m, frame)) : m = n := by
  obtain ⟨b₀, b₁, count, crc, tail, rfl⟩ := exists_header hlength
  rw [parseContent_cons] at h
  split at h
  · split at h
    · cases h
    · split at h
      · split at h
        · cases h
          rfl
        · cases h
      · cases h
        rfl
  · cases h
    rfl

/-- What a frame takes: at least the length field and the header, and at most what there is. -/
theorem parse_ok {data : Bytes} {security : Option SilkroadSecurity} {n : ℕ} {frame : SilkroadFrame}
    (h : parse data security = .ok (n, frame)) : 6 ≤ n ∧ n ≤ data.length := by
  rw [parse_eq] at h
  split at h
  · cases h
  · rename_i hwhole
    have hsize := le_totalSize (firstWord data)
    have hframe : (frameBytes data).length = totalSize (firstWord data) := by
      rw [frameBytes, List.length_take, List.length_drop]
      omega
    cases hdecrypt : decryptContent security (encryptedFlag (firstWord data)) (frameBytes data) with
    | error e =>
        rw [hdecrypt] at h
        cases h
    | ok content =>
        have hlength := decryptContent_ok hdecrypt
        rw [hdecrypt] at h
        have hn := parseContent_ok (by omega) h
        omega

end SilkroadFrame

/-! ### The decoder of the codec -/

structure SilkroadFrameDecoder where
  security : Option SilkroadSecurity

namespace SilkroadFrameDecoder

/-- `Decoder::decode`: the frame and what is left in the buffer.  `advance` panics when there is less in
the buffer. -/
def decode (decoder : SilkroadFrameDecoder) (src : Bytes) :
    Except (Failure FrameError) (Option SilkroadFrame × Bytes) :=
  match SilkroadFrame.parse src decoder.security with
  | .ok (bytesRead, frame) => do
      let src ← sliceFrom src bytesRead
      return (some frame, src)
  | .error (.error .incomplete) => .ok (none, src)
  | .error e => .error e

variable {decoder : SilkroadFrameDecoder} {src rest : Bytes}

theorem decode_item_iff {frame : SilkroadFrame} :
    decoder.decode src = .ok (some frame, rest) ↔
      ∃ n, SilkroadFrame.parse src decoder.security = .ok (n, frame) ∧ rest = src.drop n := by
  unfold decode
  split
  · rename_i n frame' hparse
    obtain ⟨-, hn⟩ := SilkroadFrame.parse_ok hparse
    rw [sliceFrom_ok hn, hparse]
    simp only [ok_bind]
    constructor
    · intro h
      cases h
      exact ⟨n, rfl, rfl⟩
    · rintro ⟨m, hm, rfl⟩
      cases hm
      rfl
  · simp_all
  · simp_all

theorem decode_more_iff :
    decoder.decode src = .ok (none, rest) ↔
      SilkroadFrame.parse src decoder.security = .error (.error .incomplete) ∧ rest = src := by
  unfold decode
  split
  · rename_i n frame hparse
    obtain ⟨-, hn⟩ := SilkroadFrame.parse_ok hparse
    rw [sliceFrom_ok hn, hparse]
    simp [pure, Except.pure]
  · simp_all [eq_comm]
  · simp_all

theorem decode_error_iff {e : Failure FrameError} :
    decoder.decode src = .error e ↔
      SilkroadFrame.parse src decoder.security = .error e ∧ e ≠ .error .incomplete := by
  unfold decode
  split
  · rename_i n frame hparse
    obtain ⟨-, hn⟩ := SilkroadFrame.parse_ok hparse
    rw [sliceFrom_ok hn, hparse]
    simp [pure, Except.pure]
  · rename_i hparse
    rw [hparse]
    constructor
    · intro h
      cases h
    · rintro ⟨h, hne⟩
      cases h
      exact absurd rfl hne
  · rename_i e' hne hparse
    rw [hparse]
    constructor
    · intro h
      cases h
      exact ⟨rfl, hne⟩
    · rintro ⟨h, -⟩
      cases h
      rfl

/-- The decoder never revises a decision when more bytes arrive. -/
def stream (decoder : SilkroadFrameDecoder) : Decoder UInt8 SilkroadFrame (Failure FrameError) where
  decode := decoder.decode
  decode_nil := rfl
  shrinks := by
    intro src frame rest h
    obtain ⟨n, hparse, rfl⟩ := decode_item_iff.1 h
    obtain ⟨hpos, hle⟩ := SilkroadFrame.parse_ok hparse
    rw [List.length_drop]
    omega
  keeps := fun h => (decode_more_iff.1 h).2
  extend_item := by
    intro src frame rest h ext
    obtain ⟨n, hparse, rfl⟩ := decode_item_iff.1 h
    obtain ⟨-, hle⟩ := SilkroadFrame.parse_ok hparse
    refine decode_item_iff.2 ⟨n, ?_, (List.drop_append_of_le_length hle).symm⟩
    rw [SilkroadFrame.parse_extend (by rw [hparse]; simp), hparse]
  extend_error := by
    intro src e h ext
    obtain ⟨hparse, hne⟩ := decode_error_iff.1 h
    refine decode_error_iff.2 ⟨?_, hne⟩
    rw [SilkroadFrame.parse_extend (by rw [hparse]; simpa using hne), hparse]

/-- **The frames of a stream do not depend on its cuts.**  However the stream is cut, the frames, the
unconsumed rest and the first error are those of the whole stream; for a frame or an error that is found
is found again when more bytes have arrived, and an incomplete frame stays in the buffer. -/
theorem cuts_do_not_matter (decoder : SilkroadFrameDecoder) (chunks : List Bytes) :
    decoder.stream.feedAll chunks = decoder.stream.feedAll [chunks.flatten] ∧
      (∀ data ext n frame, SilkroadFrame.parse data decoder.security = .ok (n, frame) →
        SilkroadFrame.parse (data ++ ext) decoder.security = .ok (n, frame)) ∧
      (∀ data ext e, SilkroadFrame.parse data decoder.security = .error e → e ≠ .error .incomplete →
        SilkroadFrame.parse (data ++ ext) decoder.security = .error e) ∧
      ∀ data, SilkroadFrame.parse data decoder.security = .error (.error .incomplete) →
        decoder.decode data = .ok (none, data) := by
  refine ⟨Decoder.feedAll_eq chunks, ?_, ?_, ?_⟩
  · intro data ext n frame hparse
    rw [SilkroadFrame.parse_extend (by rw [hparse]; simp), hparse]
  · intro data ext e hparse hne
    rw [SilkroadFrame.parse_extend (by rw [hparse]; simpa using hne), hparse]
  · intro data hparse
    exact decode_more_iff.2 ⟨hparse, rfl⟩

end SilkroadFrameDecoder

end Skrillax
