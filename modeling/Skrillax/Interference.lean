/-
**Programs that others interfere with.**

A call of a concurrent object is a sequence of atomic steps on the shared state; between two of its steps
the rest of the system may change the state.  What others can do is given by a relation, the *rely*; calls
that take a lock do not interleave with each other, so the rely only speaks about what needs no lock.

A program is a tree of atomic steps, each of which updates the state and reads from it what the program
goes on with.  The same program is run to its end without interference (`Prog.run`), with a given
interference (`Prog.runWith`), with any interference (`Exec`), or one step at a time by a system with a lock
(`Locked.Step`).

Main definitions:

* `Interference.Prog` — programs, with `Prog.run`, `Prog.runWith`, `atomically` and `read`;
* `Interference.Exec` — a whole execution with interference;
* `Interference.Safe` — under every interference an invariant holds throughout and a postcondition at the
  end;
* `Interference.Locked`, `Interference.Locked.Step` — an object whose calls take a lock.

Main results:

* `Interference.exec_bind_iff`, `Interference.Exec.of_run`, `Interference.Exec.of_runWith` — executions of a
  composed program, and runs as executions;
* `Interference.Safe.bind`, `Interference.Safe.of_step`, `Interference.Safe.exec` — the rules of the logic;
* `Interference.Locked.reachable` — **the rule for a locked object**: if every call is safe from the states
  in which the lock is free and restores their property, the invariant holds in every state that is
  reached, and the property whenever the lock is free;
* `Interference.Locked.reaches_of_exec` — an execution is a call of the locked object.
-/

import Mathlib

set_option relaxedAutoImplicit false
set_option autoImplicit false

namespace Interference

open Relation (ReflTransGen)

/-! ### Programs -/

/-- A program is done, or takes an atomic step and goes on with what it read in the state before it. -/
inductive Prog (S α : Type) : Type where
  | ret (a : α)
  | step (update : S → S) (next : S → Prog S α)

variable {S α β : Type}

namespace Prog

def bind : Prog S α → (α → Prog S β) → Prog S β
  | ret a, f => f a
  | step update next, f => step update fun s => (next s).bind f

instance : Monad (Prog S) where
  pure := ret
  bind := bind

@[simp] theorem ret_bind (a : α) (f : α → Prog S β) : (ret a >>= f) = f a := rfl

@[simp] theorem pure_bind (a : α) (f : α → Prog S β) : ((pure a : Prog S α) >>= f) = f a := rfl

@[simp] theorem step_bind (update : S → S) (next : S → Prog S α) (f : α → Prog S β) :
    (step update next >>= f) = step update fun s => next s >>= f := rfl

theorem bind_assoc {γ : Type} (p : Prog S α) (f : α → Prog S β) (g : β → Prog S γ) :
    ((p >>= f) >>= g) = p >>= fun a => f a >>= g := by
  induction p with
  | ret a => rfl
  | step update next ih =>
      rw [step_bind, step_bind, step_bind]
      exact congrArg (step update) (funext ih)

/-- The result and the last state without interference. -/
def run : Prog S α → S → α × S
  | ret a, s => (a, s)
  | step update next, s => run (next s) (update s)

@[simp] theorem run_ret (a : α) (s : S) : (ret a : Prog S α).run s = (a, s) := rfl

@[simp] theorem run_pure (a : α) (s : S) : (pure a : Prog S α).run s = (a, s) := rfl

@[simp] theorem run_step (update : S → S) (next : S → Prog S α) (s : S) :
    (step update next).run s = (next s).run (update s) := rfl

@[simp] theorem run_bind (p : Prog S α) (f : α → Prog S β) (s : S) :
    (p >>= f).run s = (f (p.run s).1).run (p.run s).2 := by
  induction p generalizing s with
  | ret a => rfl
  | step update next ih =>
      rw [step_bind, run_step, run_step]
      exact ih s (update s)

/-- The result and the last state when the given interference comes before every step. -/
def runWith (interference : ℕ → S → S) : ℕ → Prog S α → S → α × S
  | _, ret a, s => (a, s)
  | n, step update next, s =>
      runWith interference (n + 1) (next (interference n s)) (update (interference n s))

theorem runWith_congr {f g : ℕ → S → S} (n : ℕ) (h : ∀ m, n ≤ m → f m = g m) (p : Prog S α) (s : S) :
    p.runWith f n s = p.runWith g n s := by
  induction p generalizing n s with
  | ret a => rfl
  | step update next ih =>
      rw [runWith, runWith, h n le_rfl]
      exact ih (g n s) (n + 1) (fun m hm => h m (Nat.le_of_succ_le hm)) (update (g n s))

section

variable {f : S → S}

/-- If the interference is the same before every step, the steps need not be counted. -/
theorem runWith_const (n m : ℕ) (p : Prog S α) (s : S) :
    p.runWith (fun _ => f) n s = p.runWith (fun _ => f) m s := by
  induction p generalizing n m s with
  | ret a => rfl
  | step update next ih => exact ih (f s) (n + 1) (m + 1) (update (f s))

theorem runWith_const_bind (n : ℕ) (p : Prog S α) (g : α → Prog S β) (s : S) :
    (p >>= g).runWith (fun _ => f) n s =
      (g (p.runWith (fun _ => f) n s).1).runWith (fun _ => f) n (p.runWith (fun _ => f) n s).2 := by
  induction p generalizing n s with
  | ret a => rfl
  | step update next ih =>
      rw [step_bind, runWith, runWith, ih (f s) (n + 1) (update (f s))]
      exact runWith_const (n + 1) n _ _

end

end Prog

/-- A single atomic step. -/
def atomically (update : S → S) : Prog S Unit := .step update fun _ => .ret ()

/-- A single atomic read. -/
def read (f : S → α) : Prog S α := .step id fun s => .ret (f s)

@[simp] theorem run_atomically (update : S → S) (s : S) :
    (atomically update).run s = ((), update s) := rfl

@[simp] theorem run_read (f : S → α) (s : S) : (read f).run s = (f s, s) := rfl

@[simp] theorem atomically_bind (update : S → S) (f : Unit → Prog S β) :
    (atomically update >>= f) = .step update fun _ => f () := rfl

@[simp] theorem read_bind (g : S → α) (f : α → Prog S β) :
    (read g >>= f) = .step id fun s => f (g s) := rfl

theorem runWith_pure (interference : ℕ → S → S) (n : ℕ) (a : α) (s : S) :
    (pure a : Prog S α).runWith interference n s = (a, s) := rfl

theorem runWith_atomically (interference : ℕ → S → S) (n : ℕ) (update : S → S) (s : S) :
    (atomically update).runWith interference n s = ((), update (interference n s)) := rfl

theorem runWith_read (interference : ℕ → S → S) (n : ℕ) (f : S → α) (s : S) :
    (read f).runWith interference n s = (f (interference n s), interference n s) := rfl

theorem runWith_read_bind (interference : ℕ → S → S) (n : ℕ) (f : S → α) (p : α → Prog S β) (s : S) :
    (read f >>= p).runWith interference n s =
      (p (f (interference n s))).runWith interference (n + 1) (interference n s) := rfl

/-! ### Executions -/

variable {rely : S → S → Prop}

/-- An execution of a program from a state to a result and a state, with interference before every step. -/
inductive Exec (rely : S → S → Prop) : Prog S α → S → α → S → Prop where
  | ret (a : α) (s : S) : Exec rely (.ret a) s a s
  | step {update : S → S} {next : S → Prog S α} {s t u : S} {a : α} (hrely : ReflTransGen rely s t)
      (hnext : Exec rely (next t) (update t) a u) : Exec rely (.step update next) s a u

theorem exec_ret_iff {a b : α} {s t : S} : Exec rely (.ret a) s b t ↔ b = a ∧ t = s := by
  constructor
  · intro h
    cases h
    exact ⟨rfl, rfl⟩
  · rintro ⟨rfl, rfl⟩
    exact .ret b t

theorem exec_step_iff {update : S → S} {next : S → Prog S α} {s u : S} {a : α} :
    Exec rely (.step update next) s a u ↔
      ∃ t, ReflTransGen rely s t ∧ Exec rely (next t) (update t) a u := by
  constructor
  · intro h
    cases h with
    | step hrely hnext => exact ⟨_, hrely, hnext⟩
  · rintro ⟨t, hrely, hnext⟩
    exact .step hrely hnext

/-- An execution of a composed program is one after the other. -/
theorem exec_bind_iff {p : Prog S α} {f : α → Prog S β} {s u : S} {b : β} :
    Exec rely (p >>= f) s b u ↔ ∃ a t, Exec rely p s a t ∧ Exec rely (f a) t b u := by
  induction p generalizing s with
  | ret a =>
      rw [Prog.ret_bind]
      constructor
      · exact fun h => ⟨a, s, .ret a s, h⟩
      · rintro ⟨a', t, ha, hf⟩
        obtain ⟨rfl, rfl⟩ := exec_ret_iff.1 ha
        exact hf
  | step update next ih =>
      rw [Prog.step_bind, exec_step_iff]
      constructor
      · rintro ⟨t, hrely, h⟩
        obtain ⟨a, v, ha, hf⟩ := (ih t).1 h
        exact ⟨a, v, .step hrely ha, hf⟩
      · rintro ⟨a, v, ha, hf⟩
        obtain ⟨t, hrely, hnext⟩ := exec_step_iff.1 ha
        exact ⟨t, hrely, (ih t).2 ⟨a, v, hnext, hf⟩⟩

theorem exec_pure_iff {a b : α} {s t : S} : Exec rely (pure a) s b t ↔ b = a ∧ t = s := exec_ret_iff

theorem exec_read_bind_iff {g : S → α} {f : α → Prog S β} {s u : S} {b : β} :
    Exec rely (read g >>= f) s b u ↔ ∃ t, ReflTransGen rely s t ∧ Exec rely (f (g t)) t b u :=
  exec_step_iff

theorem exec_atomically_bind_iff {update : S → S} {f : Unit → Prog S β} {s u : S} {b : β} :
    Exec rely (atomically update >>= f) s b u ↔
      ∃ t, ReflTransGen rely s t ∧ Exec rely (f ()) (update t) b u :=
  exec_step_iff

/-- Running without interference is an execution. -/
theorem Exec.of_run (p : Prog S α) (s : S) : Exec rely p s (p.run s).1 (p.run s).2 := by
  induction p generalizing s with
  | ret a => exact .ret a s
  | step update next ih => exact .step .refl (ih s (update s))

/-- Running with interference that the rely allows is an execution. -/
theorem Exec.of_runWith {interference : ℕ → S → S}
    (hrely : ∀ n s, ReflTransGen rely s (interference n s)) (n : ℕ) (p : Prog S α) (s : S) :
    Exec rely p s (p.runWith interference n s).1 (p.runWith interference n s).2 := by
  induction p generalizing n s with
  | ret a => exact .ret a s
  | step update next ih => exact .step (hrely n s) (ih _ (n + 1) _)

/-! ### The logic -/

/-- The rely keeps the property. -/
def Stable (rely : S → S → Prop) (P : S → Prop) : Prop := ∀ s t, P s → rely s t → P t

theorem Stable.reflTransGen {P : S → Prop} (h : Stable rely P) {s t : S} (hs : P s)
    (hrely : ReflTransGen rely s t) : P t := by
  induction hrely with
  | refl => exact hs
  | tail _ hstep ih => exact h _ _ ih hstep

/-- Under every interference `I` holds before and after every step, and `Q` at the end. -/
def Safe (rely : S → S → Prop) (I : S → Prop) (Q : α → S → Prop) : Prog S α → S → Prop
  | .ret a, s => I s ∧ Q a s
  | .step update next, s => I s ∧ ∀ t, ReflTransGen rely s t → Safe rely I Q (next t) (update t)

variable {I : S → Prop} {Q : α → S → Prop}

theorem Safe.inv {p : Prog S α} {s : S} (h : Safe rely I Q p s) : I s := by
  cases p with
  | ret a => exact h.1
  | step update next => exact h.1

theorem Safe.of_rely (hI : Stable rely I) (hQ : ∀ a, Stable rely (Q a)) {p : Prog S α} {s t : S}
    (h : Safe rely I Q p s) (hrely : rely s t) : Safe rely I Q p t := by
  cases p with
  | ret a => exact ⟨hI s t h.1 hrely, hQ a s t h.2 hrely⟩
  | step update next =>
      exact ⟨hI s t h.1 hrely, fun u hu => h.2 u (ReflTransGen.head hrely hu)⟩

/-- The rule for a step: what is known before it is stable, and the rest of the program is safe after
it. -/
theorem Safe.of_step {P : S → Prop} (hP : Stable rely P) (hPI : ∀ s, P s → I s) {update : S → S}
    {next : S → Prog S α} {s : S} (hs : P s)
    (hnext : ∀ t, P t → Safe rely I Q (next t) (update t)) : Safe rely I Q (.step update next) s :=
  ⟨hPI s hs, fun t ht => hnext t (hP.reflTransGen hs ht)⟩

/-- The rule for a composed program. -/
theorem Safe.bind {R : β → S → Prop} {p : Prog S α} {f : α → Prog S β} {s : S}
    (hp : Safe rely I Q p s) (hf : ∀ a t, Q a t → Safe rely I R (f a) t) :
    Safe rely I R (p >>= f) s := by
  induction p generalizing s with
  | ret a => exact hf a s hp.2
  | step update next ih => exact ⟨hp.1, fun t ht => ih t (hp.2 t ht)⟩

/-- Every execution of a safe program ends in its postcondition. -/
theorem Safe.exec {p : Prog S α} {s t : S} {a : α} (hp : Safe rely I Q p s)
    (h : Exec rely p s a t) : Q a t := by
  induction h with
  | ret a s => exact hp.2
  | step hrely _ ih => exact ih (hp.2 _ hrely)

/-! ### An object with a lock -/

/-- The shared state, and what is left of the call that holds the lock. -/
structure Locked (S α : Type) : Type where
  shared : S
  holder : Option (Prog S α)

namespace Locked

/-- A call takes the lock when it is free, takes its steps, and gives the lock back with a result that
leaves it usable; the rest of the system interferes at any moment. -/
inductive Step (rely : S → S → Prop) (calls : Set (Prog S α)) (unlocks : α → Prop) :
    Locked S α → Locked S α → Prop where
  | call {s : S} {p : Prog S α} (hp : p ∈ calls) : Step rely calls unlocks ⟨s, none⟩ ⟨s, some p⟩
  | advance {s : S} {update : S → S} {next : S → Prog S α} :
      Step rely calls unlocks ⟨s, some (.step update next)⟩ ⟨update s, some (next s)⟩
  | unlock {s : S} {a : α} (ha : unlocks a) : Step rely calls unlocks ⟨s, some (.ret a)⟩ ⟨s, none⟩
  | interfere {s t : S} {holder : Option (Prog S α)} (hrely : rely s t) :
      Step rely calls unlocks ⟨s, holder⟩ ⟨t, holder⟩

variable {calls : Set (Prog S α)} {unlocks : α → Prop} {Free : S → Prop}

/-- What holds of the object: the free property when the lock is free, and else that the rest of the call
is safe. -/
def Inv (rely : S → S → Prop) (I : S → Prop) (unlocks : α → Prop) (Free : S → Prop) (m : Locked S α) :
    Prop :=
  match m.holder with
  | none => Free m.shared
  | some p => Safe rely I (fun a s => unlocks a → Free s) p m.shared

theorem Inv.step (hI : Stable rely I) (hFree : Stable rely Free)
    (hcalls : ∀ p ∈ calls, ∀ s, Free s → Safe rely I (fun a t => unlocks a → Free t) p s)
    {m n : Locked S α} (h : m.Inv rely I unlocks Free) (hstep : Step rely calls unlocks m n) :
    n.Inv rely I unlocks Free := by
  cases hstep with
  | call hp => exact hcalls _ hp _ h
  | advance => exact h.2 _ .refl
  | unlock ha => exact h.2 ha
  | @interfere s t holder hrely =>
      cases holder with
      | none => exact hFree s t h hrely
      | some p =>
          have hQ : ∀ a, Stable rely fun s => unlocks a → Free s :=
            fun a s t hs hst ha => hFree s t (hs ha) hst
          exact Safe.of_rely hI hQ h hrely

/-- **The rule for a locked object.** -/
theorem reachable (hI : Stable rely I) (hFree : Stable rely Free) (hFreeI : ∀ s, Free s → I s)
    (hcalls : ∀ p ∈ calls, ∀ s, Free s → Safe rely I (fun a t => unlocks a → Free t) p s) {s : S}
    (hs : Free s) {m : Locked S α} (h : ReflTransGen (Step rely calls unlocks) ⟨s, none⟩ m) :
    I m.shared ∧ (m.holder = none → Free m.shared) := by
  have hinv : m.Inv rely I unlocks Free := by
    induction h with
    | refl => exact hs
    | tail _ hstep ih => exact ih.step hI hFree hcalls hstep
  obtain ⟨shared, holder⟩ := m
  cases holder with
  | none => exact ⟨hFreeI shared hinv, fun _ => hinv⟩
  | some p => exact ⟨Safe.inv hinv, nofun⟩

theorem interferes (holder : Option (Prog S α)) {s t : S} (h : ReflTransGen rely s t) :
    ReflTransGen (Step rely calls unlocks) ⟨s, holder⟩ ⟨t, holder⟩ := by
  induction h with
  | refl => exact .refl
  | tail _ hstep ih => exact ih.tail (.interfere hstep)

/-- An execution is a call of the locked object. -/
theorem reaches_of_exec {p : Prog S α} {s t : S} {a : α} (hp : p ∈ calls) (h : Exec rely p s a t)
    (ha : unlocks a) : ReflTransGen (Step rely calls unlocks) ⟨s, none⟩ ⟨t, none⟩ := by
  have hrun : ReflTransGen (Step rely calls unlocks) ⟨s, some p⟩ ⟨t, some (.ret a)⟩ := by
    clear hp
    induction h with
    | ret a s => exact .refl
    | step hrely _ ih => exact (interferes _ hrely).trans (ReflTransGen.head .advance (ih ha))
  exact (ReflTransGen.head (.call hp) hrun).tail (.unlock ha)

end Locked

end Interference
