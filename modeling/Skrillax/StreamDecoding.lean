/-
**Decoding a stream that arrives in pieces.**

A decoder looks at the elements that have arrived and either takes an item off their front, or asks for
more, or fails.  The loop around it appends what arrives to a buffer and calls the decoder until it asks
for more.  If a decision of the decoder is not revised when more elements arrive, then the way in which
the stream is cut into pieces cannot be seen in the result.

Main definitions:

* `StreamDecoding.Decoder` — a decoder whose decisions are final;
* `StreamDecoding.Decoder.drain` — calling the decoder until it asks for more or fails;
* `StreamDecoding.Decoder.feed`, `StreamDecoding.Decoder.feedAll` — the loop over the pieces.

Main results:

* `StreamDecoding.Decoder.drain_append` — draining a longer buffer continues where draining the
  shorter one has stopped;
* `StreamDecoding.Decoder.feedAll_eq` — **the pieces do not matter**.
-/

import Mathlib

set_option relaxedAutoImplicit false
set_option autoImplicit false

namespace StreamDecoding

variable {β α ε : Type}

/-- A decoder that never revises a decision when more elements arrive. -/
structure Decoder (β α ε : Type) where
  /-- An item, if there is one, and the elements that are left. -/
  decode : List β → Except ε (Option α × List β)
  decode_nil : decode [] = .ok (none, [])
  /-- An item takes at least one element. -/
  shrinks : ∀ {src : List β} {a : α} {rest : List β},
    decode src = .ok (some a, rest) → rest.length < src.length
  /-- Asking for more takes nothing. -/
  keeps : ∀ {src rest : List β}, decode src = .ok (none, rest) → rest = src
  extend_item : ∀ {src : List β} {a : α} {rest : List β}, decode src = .ok (some a, rest) →
    ∀ ext, decode (src ++ ext) = .ok (some a, rest ++ ext)
  extend_error : ∀ {src : List β} {e : ε}, decode src = .error e →
    ∀ ext, decode (src ++ ext) = .error e

/-- What has come out of a stream: the items, the elements that are not part of an item, and the error
that has ended the decoding. -/
@[ext] structure Decoded (β α ε : Type) where
  items : List α
  rest : List β
  error : Option ε

/-- Items that have come out before. -/
def Decoded.prepend (items : List α) (out : Decoded β α ε) : Decoded β α ε :=
  { out with items := items ++ out.items }

theorem Decoded.prepend_prepend (items₁ items₂ : List α) (out : Decoded β α ε) :
    (out.prepend items₂).prepend items₁ = out.prepend (items₁ ++ items₂) := by
  simp [prepend]

namespace Decoder

variable (d : Decoder β α ε)

/-- Call the decoder until it asks for more or fails. -/
def drain (src : List β) : Decoded β α ε :=
  match _h : d.decode src with
  | .ok (some a, rest) => (drain rest).prepend [a]
  | .ok (none, rest) => ⟨[], rest, none⟩
  | .error e => ⟨[], src, some e⟩
termination_by src.length
decreasing_by exact d.shrinks (by assumption)

/-- The next piece arrives.  After an error it stays where it is. -/
def feed (out : Decoded β α ε) (chunk : List β) : Decoded β α ε :=
  match out.error with
  | some _ => { out with rest := out.rest ++ chunk }
  | none => (d.drain (out.rest ++ chunk)).prepend out.items

/-- All pieces arrive, one after the other. -/
def feedAll (chunks : List (List β)) : Decoded β α ε := chunks.foldl d.feed ⟨[], [], none⟩

variable {d}

theorem drain_item {src rest : List β} {a : α} (h : d.decode src = .ok (some a, rest)) :
    d.drain src = (d.drain rest).prepend [a] := by
  rw [drain]
  split <;> simp_all

theorem drain_more {src rest : List β} (h : d.decode src = .ok (none, rest)) :
    d.drain src = ⟨[], rest, none⟩ := by
  rw [drain]
  split <;> simp_all

theorem drain_error {src : List β} {e : ε} (h : d.decode src = .error e) :
    d.drain src = ⟨[], src, some e⟩ := by
  rw [drain]
  split <;> simp_all

theorem feed_of_error {out : Decoded β α ε} {e : ε} (h : out.error = some e) (chunk : List β) :
    d.feed out chunk = { out with rest := out.rest ++ chunk } := by
  simp only [feed, h]

theorem feed_of_no_error {out : Decoded β α ε} (h : out.error = none) (chunk : List β) :
    d.feed out chunk = (d.drain (out.rest ++ chunk)).prepend out.items := by
  simp only [feed, h]

theorem feed_prepend (items : List α) (out : Decoded β α ε) (chunk : List β) :
    d.feed (out.prepend items) chunk = (d.feed out chunk).prepend items := by
  cases h : out.error with
  | some e =>
      have h' : (out.prepend items).error = some e := h
      rw [feed_of_error h, feed_of_error h']
      rfl
  | none =>
      have h' : (out.prepend items).error = none := h
      rw [feed_of_no_error h, feed_of_no_error h', Decoded.prepend_prepend]
      rfl

/-- Draining a longer buffer continues where draining the shorter one has stopped. -/
theorem drain_append (src ext : List β) : d.drain (src ++ ext) = d.feed (d.drain src) ext := by
  fun_induction drain d src with
  | case1 src a rest h ih => rw [drain_item (d.extend_item h ext), ih, feed_prepend]
  | case2 src rest h =>
      rw [d.keeps h]
      rfl
  | case3 src e h =>
      rw [drain_error (d.extend_error h ext)]
      rfl

/-- Two pieces that arrive one after the other are like one piece. -/
theorem feed_feed (out : Decoded β α ε) (chunk₁ chunk₂ : List β) :
    d.feed (d.feed out chunk₁) chunk₂ = d.feed out (chunk₁ ++ chunk₂) := by
  cases h : out.error with
  | some e =>
      have h' : ({ out with rest := out.rest ++ chunk₁ } : Decoded β α ε).error = some e := h
      rw [feed_of_error h, feed_of_error h, feed_of_error h']
      simp
  | none =>
      rw [feed_of_no_error h, feed_of_no_error h, feed_prepend, ← List.append_assoc,
        drain_append (out.rest ++ chunk₁)]

theorem foldl_feed (out : Decoded β α ε) (chunk : List β) (chunks : List (List β)) :
    chunks.foldl d.feed (d.feed out chunk) = d.feed out (chunk ++ chunks.flatten) := by
  induction chunks generalizing chunk with
  | nil => simp
  | cons next chunks ih => rw [List.foldl_cons, feed_feed, ih, List.flatten_cons, List.append_assoc]

/-- **The pieces do not matter**: the stream may as well arrive at once. -/
theorem feedAll_eq (chunks : List (List β)) : d.feedAll chunks = d.feedAll [chunks.flatten] := by
  rcases chunks with _ | ⟨chunk, chunks⟩
  · have hnil : d.drain [] = ⟨[], [], none⟩ := drain_more d.decode_nil
    show (⟨[], [], none⟩ : Decoded β α ε) = (d.drain []).prepend []
    rw [hnil]
    rfl
  · exact foldl_feed _ chunk chunks

end Decoder

end StreamDecoding
