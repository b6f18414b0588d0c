/-
**Readers of byte streams.**

A reader takes some bytes off the front of a stream and returns a value, or fails.  Readers form a monad,
and what matters about a reader is closed under the operations of it: which bytes it reads as which value,
whatever follows them, and that it depends on nothing but the bytes it takes.

Main definitions:

* `ByteReader` — the readers with errors in `ε`;
* `ByteReader.Reads` — a reader takes exactly the given bytes, and returns the given value;
* `ByteReader.Regular` — whatever a reader returns, it has read;
* `ByteReader.Takes` — how many bytes a reader takes can be told from the value it returns;
* `ByteReader.exactly`, `ByteReader.many`, `ByteReader.iterate` — the given number of bytes, of values, and
  of steps.

Main results:

* `ByteReader.Reads.bind`, `ByteReader.Regular.bind` — sequences;
* `ByteReader.Reads.many`, `ByteReader.Regular.many`, `ByteReader.Takes.many` — repetition;
* `ByteReader.iterate_eq_many` — a loop that collects values.
-/

import Mathlib

set_option relaxedAutoImplicit false
set_option autoImplicit false

/-- A state is the bytes that are still to be read. -/
abbrev ByteReader (ε α : Type) := StateT (List UInt8) (Except ε) α

namespace ByteReader

variable {ε α β : Type}

/-- The reader takes the bytes of the chunk, and returns the value. -/
def Reads (r : ByteReader ε α) (chunk : List UInt8) (a : α) : Prop :=
  ∀ rest, r (chunk ++ rest) = .ok (a, rest)

/-- What the reader returns depends on the bytes it has taken only. -/
def Regular (r : ByteReader ε α) : Prop :=
  ∀ input a rest, r input = .ok (a, rest) → ∃ chunk, input = chunk ++ rest ∧ r.Reads chunk a

/-- How many bytes the reader takes can be told from the value it returns. -/
def Takes (r : ByteReader ε α) (size : α → ℕ) : Prop :=
  ∀ input a rest, r input = .ok (a, rest) → input.length = size a + rest.length

/-- The end of a stream, or any other reason not to return a value. -/
def fail (e : ε) : ByteReader ε α := fun _ => .error e

/-! ### Sequences -/

@[simp] theorem pure_run (a : α) (input : List UInt8) :
    (pure a : ByteReader ε α) input = .ok (a, input) := rfl

@[simp] theorem fail_run (e : ε) (input : List UInt8) :
    (fail e : ByteReader ε α) input = .error e := rfl

theorem bind_run (r : ByteReader ε α) (f : α → ByteReader ε β) (input : List UInt8) :
    (r >>= f) input = (r input).bind fun p => f p.1 p.2 := rfl

theorem bind_ok {r : ByteReader ε α} {f : α → ByteReader ε β} {input : List UInt8} {a : α}
    {rest : List UInt8} (h : r input = .ok (a, rest)) : (r >>= f) input = f a rest := by
  rw [bind_run, h]
  rfl

/-- A sequence that returns has two parts that return. -/
theorem bind_eq_ok {r : ByteReader ε α} {f : α → ByteReader ε β} {input : List UInt8} {b : β}
    {rest : List UInt8} (h : (r >>= f) input = .ok (b, rest)) :
    ∃ a middle, r input = .ok (a, middle) ∧ f a middle = .ok (b, rest) := by
  rw [bind_run] at h
  cases hr : r input with
  | error e =>
      rw [hr] at h
      exact absurd h (by simp [Except.bind])
  | ok p =>
      rw [hr] at h
      exact ⟨p.1, p.2, rfl, h⟩

theorem pure_eq_ok {a b : α} {input rest : List UInt8}
    (h : (pure a : ByteReader ε α) input = .ok (b, rest)) : a = b ∧ input = rest := by
  simpa using h

theorem map_eq_ok {r : ByteReader ε α} {f : α → β} {input : List UInt8} {b : β} {rest : List UInt8}
    (h : (f <$> r) input = .ok (b, rest)) : ∃ a, r input = .ok (a, rest) ∧ f a = b := by
  rw [map_eq_pure_bind] at h
  obtain ⟨a, middle, ha, hpure⟩ := bind_eq_ok h
  obtain ⟨hb, rfl⟩ := pure_eq_ok hpure
  exact ⟨a, ha, hb⟩

/-- Only what the first part may return matters to the second one. -/
theorem bind_congr_of_ok {r : ByteReader ε α} {f g : α → ByteReader ε β}
    (h : ∀ input a rest, r input = .ok (a, rest) → f a = g a) : (r >>= f) = (r >>= g) := by
  funext input
  rw [bind_run, bind_run]
  cases hr : r input with
  | error e => rfl
  | ok p =>
      change f p.1 p.2 = g p.1 p.2
      rw [h input p.1 p.2 hr]

theorem Reads.pure (a : α) : Reads (Pure.pure a : ByteReader ε α) [] a := fun _ => rfl

theorem Reads.bind {r : ByteReader ε α} {f : α → ByteReader ε β} {chunk chunk' : List UInt8} {a : α}
    {b : β} (h : r.Reads chunk a) (h' : (f a).Reads chunk' b) : (r >>= f).Reads (chunk ++ chunk') b := by
  intro rest
  rw [List.append_assoc, bind_ok (h (chunk' ++ rest))]
  exact h' rest

theorem Reads.map {r : ByteReader ε α} {chunk : List UInt8} {a : α} (h : r.Reads chunk a) (f : α → β) :
    (f <$> r).Reads chunk (f a) := by
  rw [map_eq_pure_bind, ← List.append_nil chunk]
  exact h.bind (Reads.pure _)

theorem Regular.pure (a : α) : Regular (Pure.pure a : ByteReader ε α) := by
  intro input b rest h
  obtain ⟨rfl, rfl⟩ := pure_eq_ok h
  exact ⟨[], rfl, Reads.pure a⟩

theorem Regular.fail (e : ε) : Regular (ByteReader.fail e : ByteReader ε α) := by
  intro input a rest h
  simp at h

theorem Regular.bind {r : ByteReader ε α} {f : α → ByteReader ε β} (h : r.Regular)
    (h' : ∀ a, (f a).Regular) : (r >>= f).Regular := by
  intro input b rest hrun
  obtain ⟨a, middle, hr, hf⟩ := bind_eq_ok hrun
  obtain ⟨chunk, rfl, hchunk⟩ := h _ _ _ hr
  obtain ⟨chunk', rfl, hchunk'⟩ := h' a _ _ _ hf
  exact ⟨chunk ++ chunk', (List.append_assoc _ _ _).symm, hchunk.bind hchunk'⟩

theorem Regular.map {r : ByteReader ε α} (h : r.Regular) (f : α → β) : (f <$> r).Regular := by
  rw [map_eq_pure_bind]
  exact h.bind fun a => Regular.pure (f a)

/-- Where the result of a regular reader is mapped to a value, there is a result. -/
theorem Regular.reads_of_map {r : ByteReader ε α} (h : r.Regular) {f : α → β} {chunk : List UInt8} {b : β}
    (hmap : (f <$> r).Reads chunk b) : ∃ a, r.Reads chunk a ∧ f a = b := by
  obtain ⟨a, ha, hb⟩ := map_eq_ok (hmap [])
  obtain ⟨chunk', hchunk, hreads⟩ := h _ _ _ ha
  rw [List.append_nil, List.append_nil] at hchunk
  exact ⟨a, hchunk ▸ hreads, hb⟩

/-! ### Bytes and repetition -/

/-- Exactly `n` bytes, or the error of an early end. -/
def exactly (e : ε) (n : ℕ) : ByteReader ε (List UInt8) := fun input =>
  if n ≤ input.length then .ok (input.take n, input.drop n) else .error e

theorem Reads.exactly (e : ε) (bytes : List UInt8) :
    (ByteReader.exactly e bytes.length).Reads bytes bytes := by
  intro rest
  simp [ByteReader.exactly]

theorem length_of_exactly {e : ε} {n : ℕ} {input bytes rest : List UInt8}
    (h : ByteReader.exactly e n input = .ok (bytes, rest)) : bytes.length = n := by
  unfold ByteReader.exactly at h
  split at h
  · rename_i hle
    obtain ⟨rfl, rfl⟩ : input.take n = bytes ∧ input.drop n = rest := by simpa using h
    exact List.length_take_of_le hle
  · simp at h

theorem Regular.exactly (e : ε) (n : ℕ) : (ByteReader.exactly e n).Regular := by
  intro input bytes rest h
  have hlen := length_of_exactly h
  unfold ByteReader.exactly at h
  split at h
  · obtain ⟨htake, hdrop⟩ : input.take n = bytes ∧ input.drop n = rest := by simpa using h
    refine ⟨bytes, ?_, ?_⟩
    · rw [← htake, ← hdrop, List.take_append_drop]
    · rw [← hlen]
      exact Reads.exactly e bytes
  · simp at h

/-- The reader, `n` times. -/
def many (r : ByteReader ε α) : ℕ → ByteReader ε (List α)
  | 0 => pure []
  | n + 1 => do
      let a ← r
      let as ← many r n
      return a :: as

/-- Every value has been read by the reader. -/
theorem forall_of_many {r : ByteReader ε α} {P : α → Prop}
    (h : ∀ input a rest, r input = .ok (a, rest) → P a) :
    ∀ (n : ℕ) (input : List UInt8) (as : List α) (rest : List UInt8),
      r.many n input = .ok (as, rest) → as.length = n ∧ ∀ a ∈ as, P a := by
  intro n
  induction n with
  | zero =>
      intro input as rest hrun
      obtain ⟨rfl, -⟩ := pure_eq_ok hrun
      simp
  | succ n ih =>
      intro input as rest hrun
      obtain ⟨a, middle, ha, hrest⟩ := bind_eq_ok hrun
      obtain ⟨as', middle', has, hpure⟩ := bind_eq_ok hrest
      obtain ⟨rfl, -⟩ := pure_eq_ok hpure
      obtain ⟨hlen, hall⟩ := ih _ _ _ has
      refine ⟨by rw [List.length_cons, hlen], fun b hb => ?_⟩
      rcases List.mem_cons.1 hb with rfl | hb
      · exact h _ _ _ ha
      · exact hall b hb

theorem length_of_many {r : ByteReader ε α} {n : ℕ} {input : List UInt8} {as : List α}
    {rest : List UInt8} (h : r.many n input = .ok (as, rest)) : as.length = n :=
  (forall_of_many (P := fun _ => True) (fun _ _ _ _ => trivial) n input as rest h).1

theorem Regular.many {r : ByteReader ε α} (h : r.Regular) (n : ℕ) : (r.many n).Regular := by
  induction n with
  | zero => exact Regular.pure []
  | succ n ih => exact h.bind fun a => ih.bind fun as => Regular.pure (a :: as)

/-- Values written one after the other. -/
theorem Reads.many {r : ByteReader ε α} (write : α → List UInt8) :
    ∀ as : List α, (∀ a ∈ as, r.Reads (write a) a) → (r.many as.length).Reads (as.flatMap write) as := by
  intro as
  induction as with
  | nil => exact fun _ => Reads.pure []
  | cons a as ih =>
      intro h
      have htail := ih fun b hb => h b (List.mem_cons_of_mem _ hb)
      have hstep := (h a List.mem_cons_self).bind (f := fun a => do
        let as ← r.many as.length
        return a :: as) (htail.map (a :: ·))
      rw [List.flatMap_cons]
      exact hstep

theorem Takes.exactly (e : ε) (n : ℕ) : (ByteReader.exactly e n).Takes fun _ => n := by
  intro input bytes rest h
  unfold ByteReader.exactly at h
  split at h
  · obtain ⟨-, rfl⟩ : input.take n = bytes ∧ input.drop n = rest := by simpa using h
    change input.length = n + (input.drop n).length
    rw [List.length_drop]
    omega
  · simp at h

/-- The values take their bytes one after the other. -/
theorem Takes.many {r : ByteReader ε α} {size : α → ℕ} (h : r.Takes size) (n : ℕ) :
    (r.many n).Takes fun as => (as.map size).sum := by
  induction n with
  | zero =>
      intro input as rest hrun
      obtain ⟨rfl, rfl⟩ := pure_eq_ok hrun
      simp
  | succ n ih =>
      intro input as rest hrun
      obtain ⟨a, middle, ha, hrest⟩ := bind_eq_ok hrun
      obtain ⟨as', middle', has, hpure⟩ := bind_eq_ok hrest
      obtain ⟨rfl, rfl⟩ := pure_eq_ok hpure
      have hhead := h _ _ _ ha
      have htail : middle.length = (as'.map size).sum + middle'.length := ih _ _ _ has
      change input.length = ((a :: as').map size).sum + middle'.length
      rw [List.map_cons, List.sum_cons]
      omega

/-- A step, `n` times, each time from where the last one ended. -/
def iterate (step : α → ByteReader ε α) : ℕ → α → ByteReader ε α
  | 0, a => pure a
  | n + 1, a => do
      let a ← step a
      iterate step n a

theorem Regular.iterate {step : α → ByteReader ε α} (h : ∀ a, (step a).Regular) (n : ℕ) :
    ∀ a, (ByteReader.iterate step n a).Regular := by
  induction n with
  | zero => exact fun a => Regular.pure a
  | succ n ih => exact fun a => (h a).bind ih

/-- A step that reads a value and adds it to what there is. -/
theorem iterate_eq_many {r : ByteReader ε β} {step : α → ByteReader ε α} (state : List β → α)
    (h : ∀ acc, step (state acc) = (fun b => state (acc ++ [b])) <$> r) (n : ℕ) :
    ∀ acc, ByteReader.iterate step n (state acc) = (fun bs => state (acc ++ bs)) <$> r.many n := by
  induction n with
  | zero =>
      intro acc
      simp [ByteReader.iterate, ByteReader.many]
  | succ n ih =>
      intro acc
      simp only [ByteReader.iterate, ByteReader.many, h, ih, map_eq_pure_bind, bind_assoc, pure_bind,
        List.append_assoc, List.singleton_append]

end ByteReader
