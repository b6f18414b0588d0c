/-
**Runs of the handshake.**

A connection's security is used through its methods, in any order.  What a run of calls leaves behind is
determined by the calls that changed the state: a handshake is complete exactly when the last three of
them started it, answered its challenge and accepted it.

Main definitions:

* `Call`, `Call.run` — a call of a method, its result and the state that it leaves behind;
* `history` — the calls of a run with their results, and the state at its end;
* `Milestone`, `milestones` — the calls of a history that changed the state;
* `HandshakeComplete` — the last three of them completed a handshake.

Main results:

* `Call.run_error` — a call that returns an error leaves the state as it was;
* `leadsTo_history` — the state at the end of a run is the one that its milestones lead to;
* `encrypts_iff_handshakeComplete` — **a run can encrypt at its end exactly when its last milestones
  completed a handshake**.
-/

import Skrillax.KeyExchange

set_option relaxedAutoImplicit false
set_option autoImplicit false

namespace Skrillax

open Rust

/-! ### Calls -/

/-- A call of a method with its arguments. -/
inductive Call where
  | initializeSecurity (draws : RandomDraws)
  | initializeWith (countSeed crcSeed : UInt32) (handshakeSeed : UInt64) (x p a : UInt32)
  | startChallenge (valueB : UInt32) (clientKey : UInt64)
  | acceptChallenge
  | restart
  | encrypt (data : Bytes)
  | decrypt (data : Bytes)
  deriving DecidableEq

/-- How a call ended. -/
abbrev Outcome := Except (Failure SilkroadSecurityError) Unit

/-- The result of a call, without the value that it returned. -/
def outcome {α : Type} (result : Except (Failure SilkroadSecurityError) α) : Outcome :=
  result.map fun _ => ()

@[simp] theorem outcome_ok {α : Type} (a : α) :
    outcome (.ok a : Except (Failure SilkroadSecurityError) α) = .ok () := rfl

@[simp] theorem outcome_error {α : Type} (e : Failure SilkroadSecurityError) :
    outcome (.error e : Except (Failure SilkroadSecurityError) α) = .error e := rfl

section Runs

variable (profile : Profile) (newFromSlice : Block → BlowfishCompat)

def Call.run (call : Call) (security : SilkroadSecurity) : Outcome × SilkroadSecurity :=
  match call with
  | initializeSecurity draws =>
      let (result, security) := security.initializeSecurity profile draws
      (outcome result, security)
  | initializeWith countSeed crcSeed handshakeSeed x p a =>
      (.ok (), security.initializeWith countSeed crcSeed handshakeSeed x p a)
  | startChallenge valueB clientKey =>
      let (result, security) := security.startChallenge profile newFromSlice valueB clientKey
      (outcome result, security)
  | acceptChallenge => security.acceptChallenge
  | restart => (.ok (), security.restart)
  | encrypt data => (outcome (security.encrypt data), security)
  | decrypt data => (outcome (security.decrypt data), security)

/-- The calls of a run with their outcomes, and the state at its end.  A call that panics is one of them:
its caller may catch the panic and go on. -/
def history : List Call → SilkroadSecurity → List (Call × Outcome) × SilkroadSecurity
  | [], security => ([], security)
  | call :: calls, security =>
      let (result, security) := call.run profile newFromSlice security
      let (events, security) := history calls security
      ((call, result) :: events, security)

/-- A change of the state. -/
inductive Milestone where
  | started
  | challenged
  | accepted
  | restarted
  deriving DecidableEq, Repr

/-- The change that a call made: a method that can fail changes the state if it returned `Ok`, the other
two always do, and encryption never does. -/
def milestone : Call × Outcome → Option Milestone
  | (.initializeSecurity _, .ok ()) => some .started
  | (.initializeWith .., _) => some .started
  | (.startChallenge _ _, .ok ()) => some .challenged
  | (.acceptChallenge, .ok ()) => some .accepted
  | (.restart, _) => some .restarted
  | _ => none

def milestones (events : List (Call × Outcome)) : List Milestone := events.filterMap milestone

/-- The last changes of the state were that a handshake was started, its challenge was answered and it
was accepted, in this order. -/
def HandshakeComplete (events : List (Call × Outcome)) : Prop :=
  [.started, .challenged, .accepted] <:+ milestones events

instance (events : List (Call × Outcome)) : Decidable (HandshakeComplete events) :=
  inferInstanceAs (Decidable (_ <:+ _))

/-! ### Single calls -/

namespace SilkroadSecurity

/-- A method that fails leaves the state as it was, and else starts a handshake. -/
theorem initializeSecurity_cases (draws : RandomDraws) (security : SilkroadSecurity) :
    (∃ e, initializeSecurity profile draws security = (.error e, security)) ∨
      ∃ init x p a, initializeSecurity profile draws security =
        (.ok init, initializeWith draws.countSeed draws.crcSeed draws.handshakeSeed x p a security) := by
  rcases security with ⟨_ | _ | _ | _⟩
  · rcases ha : gPowXModP profile (i64OfU32 draws.valueP) draws.valueX draws.valueG with _ | a
    · exact Or.inl ⟨_, initializeSecurity_new_of_none ha⟩
    · exact Or.inr ⟨_, _, _, _, initializeSecurity_new ha⟩
  all_goals exact Or.inl ⟨_, rfl⟩

/-- A challenge fails and leaves the state as it was, or goes on from a started handshake. -/
theorem startChallenge_cases (valueB : UInt32) (clientKey : UInt64) (security : SilkroadSecurity) :
    (∃ e, startChallenge profile newFromSlice valueB clientKey security = (.error e, security)) ∨
      ∃ countSeed crcSeed handshakeSeed x p a challenge blowfish,
        security.state = .handshakeStarted countSeed crcSeed handshakeSeed x p a ∧
        startChallenge profile newFromSlice valueB clientKey security =
          (.ok challenge, { state := .challenged blowfish countSeed crcSeed }) := by
  rcases security with ⟨_ | ⟨countSeed, crcSeed, handshakeSeed, x, p, a⟩ | _ | _⟩
  · exact Or.inl ⟨_, rfl⟩
  · rcases hk : gPowXModP profile (i64OfU32 p) x valueB with _ | k
    · exact Or.inl ⟨_, startChallenge_started_of_none hk⟩
    · rcases startChallenge_started newFromSlice countSeed crcSeed handshakeSeed a clientKey hk with
        ⟨-, h⟩ | ⟨-, h⟩
      · exact Or.inr ⟨_, _, _, _, _, _, _, _, rfl, h⟩
      · exact Or.inl ⟨_, h⟩
  · exact Or.inl ⟨_, rfl⟩
  · exact Or.inl ⟨_, rfl⟩

theorem acceptChallenge_cases (security : SilkroadSecurity) :
    (∃ e, acceptChallenge security = (.error e, security)) ∨
      ∃ blowfish countSeed crcSeed, security.state = .challenged blowfish countSeed crcSeed ∧
        acceptChallenge security =
          (.ok (), { state := .established blowfish (generateCountSeed countSeed) crcSeed }) := by
  rcases security with ⟨_ | _ | ⟨blowfish, countSeed, crcSeed⟩ | _⟩
  · exact Or.inl ⟨_, rfl⟩
  · exact Or.inl ⟨_, rfl⟩
  · exact Or.inr ⟨_, _, _, rfl, rfl⟩
  · exact Or.inl ⟨_, rfl⟩

/-- Encryption succeeds exactly after a complete handshake. -/
theorem encrypt_ok_iff (security : SilkroadSecurity) (data : Bytes) :
    (∃ out, security.encrypt data = .ok out) ↔ security.IsEstablished := by
  constructor
  · rintro ⟨out, h⟩
    rcases security with ⟨_ | _ | _ | ⟨blowfish, countSeed, crcSeed⟩⟩
    · cases h
    · cases h
    · cases h
    · exact ⟨blowfish, countSeed, crcSeed, rfl⟩
  · intro h
    obtain ⟨out, hout, -⟩ := decrypt_encrypt h data
    exact ⟨out, hout⟩

/-- Decryption of whole blocks succeeds exactly after a complete handshake. -/
theorem decrypt_ok_iff (security : SilkroadSecurity) {data : Bytes} (hmod : data.length % 8 = 0) :
    (∃ out, security.decrypt data = .ok out) ↔ security.IsEstablished := by
  constructor
  · rintro ⟨out, h⟩
    rcases security with ⟨_ | _ | _ | ⟨blowfish, countSeed, crcSeed⟩⟩
    · cases h
    · cases h
    · cases h
    · exact ⟨blowfish, countSeed, crcSeed, rfl⟩
  · rintro ⟨blowfish, countSeed, crcSeed, hstate⟩
    obtain ⟨blocks, rfl⟩ := exists_flatten data hmod
    exact ⟨_, mapBlocksMut_flatten BlowfishCompat.decryptBlock hstate blocks⟩

end SilkroadSecurity

/-! ### Runs -/

/-- The state that some milestones lead to. -/
def LeadsTo (state : SecurityState) (done : List Milestone) : Prop :=
  match state with
  | .uninitialized => done = [] ∨ [.restarted] <:+ done
  | .handshakeStarted .. => [.started] <:+ done
  | .challenged .. => [.started, .challenged] <:+ done
  | .established .. => [.started, .challenged, .accepted] <:+ done

/-- A complete handshake can be read off the milestones. -/
theorem LeadsTo.isEstablished_iff {security : SilkroadSecurity} {done : List Milestone}
    (h : LeadsTo security.state done) :
    security.IsEstablished ↔ [.started, .challenged, .accepted] <:+ done := by
  constructor
  · rintro ⟨blowfish, countSeed, crcSeed, hstate⟩
    rw [hstate] at h
    exact h
  · rintro ⟨pre, rfl⟩
    -- two suffixes end in the same milestone
    have hlast : ∀ (front : List Milestone) {m : Milestone},
        front ++ [m] <:+ pre ++ [.started, .challenged, .accepted] → m = .accepted := by
      rintro front m ⟨front', hfront⟩
      have h := congrArg List.getLast? hfront
      simpa using h
    rcases security with ⟨_ | _ | _ | ⟨blowfish, countSeed, crcSeed⟩⟩
    · rcases h with h | h
      · simp at h
      · exact absurd (hlast [] h) (by decide)
    · exact absurd (hlast [] h) (by decide)
    · exact absurd (hlast [.started] h) (by decide)
    · exact ⟨blowfish, countSeed, crcSeed, rfl⟩

theorem suffix_concat {done front : List Milestone} (h : front <:+ done) (m : Milestone) :
    front ++ [m] <:+ done ++ [m] := by
  obtain ⟨pre, rfl⟩ := h
  exact ⟨pre, (List.append_assoc _ _ _).symm⟩

/-- A call that fails changes nothing. -/
theorem LeadsTo.of_error {call : Call} {security : SilkroadSecurity} {done : List Milestone}
    {e : Failure SilkroadSecurityError} (h : LeadsTo security.state done)
    (hnone : milestone (call, .error e) = none) :
    LeadsTo security.state (done ++ (milestone (call, .error e)).toList) := by
  rw [hnone, Option.toList_none, List.append_nil]
  exact h

/-- A call leads to the state that its milestone leads to. -/
theorem leadsTo_run (call : Call) {security : SilkroadSecurity} {done : List Milestone}
    (h : LeadsTo security.state done) :
    LeadsTo (call.run profile newFromSlice security).2.state
      (done ++ (milestone (call, (call.run profile newFromSlice security).1)).toList) := by
  cases call with
  | initializeSecurity draws =>
      rcases security.initializeSecurity_cases profile draws with
        ⟨e, he⟩ | ⟨init, x, p, a, hok⟩
      · simp only [Call.run, he]
        exact h.of_error rfl
      · simp only [Call.run, hok]
        exact List.suffix_append done [.started]
  | initializeWith => exact List.suffix_append done [.started]
  | startChallenge valueB clientKey =>
      rcases security.startChallenge_cases profile newFromSlice valueB clientKey with
        ⟨e, he⟩ | ⟨_, _, _, _, _, _, challenge, blowfish, hstate, hok⟩
      · simp only [Call.run, he]
        exact h.of_error rfl
      · simp only [Call.run, hok]
        rw [hstate] at h
        exact suffix_concat h .challenged
  | acceptChallenge =>
      rcases security.acceptChallenge_cases with ⟨e, he⟩ | ⟨_, _, _, hstate, hok⟩
      · simp only [Call.run, he]
        exact h.of_error rfl
      · simp only [Call.run, hok]
        rw [hstate] at h
        exact suffix_concat h .accepted
  | restart => exact Or.inr (List.suffix_append done [.restarted])
  | encrypt data =>
      rw [show milestone (.encrypt data, _) = none from rfl, Option.toList_none, List.append_nil]
      exact h
  | decrypt data =>
      rw [show milestone (.decrypt data, _) = none from rfl, Option.toList_none, List.append_nil]
      exact h

theorem leadsTo_history_append (calls : List Call) {security : SilkroadSecurity}
    {done : List Milestone} (h : LeadsTo security.state done) :
    LeadsTo (history profile newFromSlice calls security).2.state
      (done ++ milestones (history profile newFromSlice calls security).1) := by
  induction calls generalizing security done with
  | nil =>
      rw [history, milestones, List.filterMap_nil, List.append_nil]
      exact h
  | cons call calls ih =>
      have hrest := ih (leadsTo_run profile newFromSlice call h)
      rw [List.append_assoc] at hrest
      have hsplit : ∀ (event : Call × Outcome) (events : List (Call × Outcome)),
          milestones (event :: events) = (milestone event).toList ++ milestones events := by
        intro event events
        rw [milestones, List.filterMap_cons]
        cases milestone event <;> rfl
      rw [history, hsplit]
      exact hrest

/-- The state at the end of a run is the one that its milestones lead to. -/
theorem leadsTo_history (calls : List Call) :
    LeadsTo (history profile newFromSlice calls SilkroadSecurity.new).2.state
      (milestones (history profile newFromSlice calls SilkroadSecurity.new).1) := by
  have hnew : LeadsTo SilkroadSecurity.new.state [] := Or.inl rfl
  exact leadsTo_history_append profile newFromSlice calls hnew

/-- A call that returns an error leaves the state as it was. -/
theorem Call.run_error {profile newFromSlice} {call : Call} {security after : SilkroadSecurity}
    {e : SilkroadSecurityError} (h : call.run profile newFromSlice security = (.error (.error e), after)) : after = security := by
  cases call with
  | initializeSecurity draws =>
      rcases security.initializeSecurity_cases profile draws with
        ⟨e', he⟩ | ⟨init, x, p, a, hok⟩
      · simp only [Call.run, he] at h
        exact (Prod.mk.inj h).2.symm
      · simp only [Call.run, hok] at h
        cases h
  | initializeWith => cases h
  | startChallenge valueB clientKey =>
      rcases security.startChallenge_cases profile newFromSlice valueB clientKey with
        ⟨e', he⟩ | ⟨_, _, _, _, _, _, challenge, blowfish, hstate, hok⟩
      · simp only [Call.run, he] at h
        exact (Prod.mk.inj h).2.symm
      · simp only [Call.run, hok] at h
        cases h
  | acceptChallenge =>
      rcases security.acceptChallenge_cases with ⟨e', he⟩ | ⟨_, _, _, hstate, hok⟩
      · simp only [Call.run, he] at h
        exact (Prod.mk.inj h).2.symm
      · simp only [Call.run, hok] at h
        cases h
  | restart => cases h
  | encrypt data => exact (Prod.mk.inj h).2.symm
  | decrypt data => exact (Prod.mk.inj h).2.symm

end Runs

/-- **A run can encrypt at its end exactly when its last milestones completed a handshake**, and a call
that returns an error does not change the state. -/
theorem encrypts_iff_handshakeComplete (profile : Profile) (newFromSlice : Block → BlowfishCompat)
    (calls : List Call) :
    let events := (history profile newFromSlice calls SilkroadSecurity.new).1
    let security := (history profile newFromSlice calls SilkroadSecurity.new).2
    (∀ data, (∃ out, security.encrypt data = .ok out) ↔ HandshakeComplete events) ∧
      (∀ data : Bytes, data.length % 8 = 0 →
        ((∃ out, security.decrypt data = .ok out) ↔ HandshakeComplete events)) ∧
      ∀ (call : Call) (e : SilkroadSecurityError) (after : SilkroadSecurity),
        call.run profile newFromSlice security = (.error (.error e), after) → after = security := by
  have hiff := (leadsTo_history profile newFromSlice calls).isEstablished_iff
  refine ⟨fun data => ?_, fun data hmod => ?_, fun call e after h => Call.run_error h⟩
  · rw [SilkroadSecurity.encrypt_ok_iff]
    exact hiff
  · rw [SilkroadSecurity.decrypt_ok_iff _ hmod]
    exact hiff

end Skrillax
