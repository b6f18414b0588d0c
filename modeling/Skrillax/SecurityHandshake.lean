/-
**The handshake of a connection.**

`SecurityHandshake::do_handshake` sends the initialization, waits for the challenge of the client, sends
the answer and waits for the client to accept it.  A packet that is not expected, an error of the stream
and a closed stream end it with an error.  A method of the security that fails is an `expect` that panics
instead; the key of the client is the one thing among them that the client decides about.

Main definitions:

* `ClientPacket`, `HandshakeStage`, `HandshakeError` — what is received, sent and returned;
* `doHandshake` — the handshake;
* `KeyIsExpected` — a challenge's key matches the initialization that the server sent;
* `HandshakeIsClean` — the handshake succeeds on the right messages only and fails with an error else.

Main results:

* `doHandshake_ok_iff` — the handshake succeeds exactly on a matching challenge and its acceptance;
* `handshakeIsClean_iff` — **the handshake fails cleanly exactly when the initialization does not divide by
  zero and the first message is not a challenge whose key does not match or whose power overflows**.
-/

import Skrillax.KeyExchange
import Skrillax.StreamReader

set_option relaxedAutoImplicit false
set_option autoImplicit false

namespace Skrillax

open Rust SilkroadSecurity

/-! ### The handshake -/

/-- The packets of a client, as far as the handshake tells them apart. -/
inductive ClientPacket where
  | handshakeChallenge (b : UInt32) (key : UInt64)
  | handshakeAccepted
  | other
  deriving DecidableEq, Repr

/-- The stages that the server sends; the first one is `HandshakeStage::Initialize`. -/
inductive HandshakeStage where
  | initializeWith (blowfishSeed : UInt64) (seedCount seedCrc : UInt32) (handshakeSeed : UInt64)
      (a b c : UInt32)
  | finalize (challenge : UInt64)
  deriving DecidableEq, Repr

inductive HandshakeError where
  | nonHandshakePacketReceived
  | streamError (e : StreamError)
  deriving DecidableEq, Repr

/-- `reader.next()` returns the received packets and errors one by one, and then that the stream has been
closed. -/
def nextPacket : List (Except StreamError ClientPacket) →
    Except StreamError ClientPacket × List (Except StreamError ClientPacket)
  | [] => (.error .streamClosed, [])
  | packet :: rest => (packet, rest)

def initializationStage (init : InitializationData) : HandshakeStage :=
  .initializeWith init.seed init.countSeed init.crcSeed init.handshakeSeed (init.additionalSeeds.get 0)
    (init.additionalSeeds.get 1) (init.additionalSeeds.get 2)

section Handshake

variable (profile : Profile) (newFromSlice : Block → BlowfishCompat)
  (send : HandshakeStage → Except StreamError Unit)

/-- The part of `do_handshake` after the challenge of the client. -/
def finishHandshake (challenge : UInt64) (received : List (Except StreamError ClientPacket))
    (security : SilkroadSecurity) : Except (Failure HandshakeError) Unit × SilkroadSecurity :=
  match send (.finalize challenge) with
  | .error e => (.error (.error (.streamError e)), security)
  | .ok () =>
      match nextPacket received with
      | (.error e, _) => (.error (.error (.streamError e)), security)
      | (.ok .handshakeAccepted, _) =>
          match security.acceptChallenge with
          | (.error _, security) => (.error .panic, security)
          | (.ok (), security) => (.ok (), security)
      | (.ok _, _) => (.error (.error .nonHandshakePacketReceived), security)

/-- `do_handshake` on what the client sends.  Nobody else takes the write lock of the security, so that it
is not poisoned before the handshake itself panics. -/
def doHandshake (draws : RandomDraws) (received : List (Except StreamError ClientPacket))
    (security : SilkroadSecurity) : Except (Failure HandshakeError) Unit × SilkroadSecurity :=
  match security.initializeSecurity profile draws with
  | (.error _, security) => (.error .panic, security)
  | (.ok init, security) =>
      match send (initializationStage init) with
      | .error e => (.error (.error (.streamError e)), security)
      | .ok () =>
          match nextPacket received with
          | (.error e, _) => (.error (.error (.streamError e)), security)
          | (.ok (.handshakeChallenge b key), received) =>
              match security.startChallenge profile newFromSlice b key with
              | (.error _, security) => (.error .panic, security)
              | (.ok challenge, security) => finishHandshake send challenge received security
          | (.ok _, _) => (.error (.error .nonHandshakePacketReceived), security)

/-! ### Statement -/

/-- The initialization that the draws lead to is sent. -/
def InitializationSent (draws : RandomDraws) : Prop :=
  ∃ init started, initializeSecurity profile draws new = (.ok init, started) ∧
    send (initializationStage init) = .ok ()

/-- The key of a challenge matches the initialization. -/
def KeyIsExpected (draws : RandomDraws) (b : UInt32) (key : UInt64) : Prop :=
  ∃ a k, gPowXModP profile (i64OfU32 draws.valueP) draws.valueX draws.valueG = some a ∧
    gPowXModP profile (i64OfU32 draws.valueP) draws.valueX b = some k ∧
    KeyMatches newFromSlice a b k key

/-- The answer to a challenge. -/
def answer (draws : RandomDraws) (b : UInt32) : Option UInt64 := do
  let a ← gPowXModP profile (i64OfU32 draws.valueP) draws.valueX draws.valueG
  let k ← gPowXModP profile (i64OfU32 draws.valueP) draws.valueX b
  return (blowfishFromInt newFromSlice (exchangeKey a b k)).encryptU64 (challengeKey a b k)

/-- The client sent a matching challenge and accepted the answer, and both stages could be sent. -/
def HandshakeAccepted (draws : RandomDraws) (received : List (Except StreamError ClientPacket)) : Prop :=
  InitializationSent profile send draws ∧
    ∃ b key rest challenge,
      received = .ok (.handshakeChallenge b key) :: .ok .handshakeAccepted :: rest ∧
      KeyIsExpected profile newFromSlice draws b key ∧
      answer profile newFromSlice draws b = some challenge ∧ send (.finalize challenge) = .ok ()

/-- The handshake of a new connection succeeds exactly on the right messages, and fails with an error
else. -/
structure HandshakeIsClean (draws : RandomDraws) (received : List (Except StreamError ClientPacket)) :
    Prop where
  ok_iff : (doHandshake profile newFromSlice send draws received new).1 = .ok () ↔
    HandshakeAccepted profile newFromSlice send draws received
  error : (doHandshake profile newFromSlice send draws received new).1 ≠ .ok () →
    ∃ e, (doHandshake profile newFromSlice send draws received new).1 = .error (.error e)

/-- The first message is not a challenge whose key does not match, or whose power overflows. -/
def FirstKeyIsExpected (draws : RandomDraws) (received : List (Except StreamError ClientPacket)) : Prop :=
  ∀ b key rest, received = .ok (.handshakeChallenge b key) :: rest →
    InitializationSent profile send draws → KeyIsExpected profile newFromSlice draws b key

/-! ### The ways it ends -/

/-- After a challenge the handshake succeeds if the answer is sent and accepted, and fails with an error
else. -/
theorem finishHandshake_cases (challenge : UInt64) (rest : List (Except StreamError ClientPacket))
    (blowfish : BlowfishCompat) (countSeed crcSeed : UInt32) :
    ((send (.finalize challenge) = .ok () ∧ ∃ rest', rest = .ok .handshakeAccepted :: rest') ∧
      (finishHandshake send challenge rest { state := .challenged blowfish countSeed crcSeed }).1 =
        .ok ()) ∨
    (¬ (send (.finalize challenge) = .ok () ∧ ∃ rest', rest = .ok .handshakeAccepted :: rest') ∧
      ∃ e, (finishHandshake send challenge rest { state := .challenged blowfish countSeed crcSeed }).1 =
        .error (.error e)) := by
  rcases hsend : send (.finalize challenge) with e | ⟨⟩
  · refine Or.inr ⟨by simp, .streamError e, ?_⟩
    simp only [finishHandshake, hsend]
  · rcases rest with _ | ⟨e | packet, rest⟩
    · refine Or.inr ⟨by simp, .streamError .streamClosed, ?_⟩
      simp only [finishHandshake, hsend, nextPacket]
    · refine Or.inr ⟨by simp, .streamError e, ?_⟩
      simp only [finishHandshake, hsend, nextPacket]
    · cases packet with
      | handshakeAccepted =>
          refine Or.inl ⟨⟨rfl, rest, rfl⟩, ?_⟩
          simp only [finishHandshake, hsend, nextPacket, acceptChallenge]
      | handshakeChallenge b key =>
          refine Or.inr ⟨by simp, .nonHandshakePacketReceived, ?_⟩
          simp only [finishHandshake, hsend, nextPacket]
      | other =>
          refine Or.inr ⟨by simp, .nonHandshakePacketReceived, ?_⟩
          simp only [finishHandshake, hsend, nextPacket]

theorem initializationSent_iff {draws : RandomDraws} {init : InitializationData}
    {started : SilkroadSecurity} (h : initializeSecurity profile draws new = (.ok init, started)) :
    InitializationSent profile send draws ↔ send (initializationStage init) = .ok () := by
  constructor
  · rintro ⟨init', started', h', hsend⟩
    rw [h] at h'
    cases h'
    exact hsend
  · exact fun hsend => ⟨init, started, h, hsend⟩

/-- How a handshake goes, by what is drawn, sent and received first. -/
inductive HandshakeCase (profile : Profile) (newFromSlice : Block → BlowfishCompat)
    (send : HandshakeStage → Except StreamError Unit) (draws : RandomDraws)
    (received : List (Except StreamError ClientPacket)) : Except (Failure HandshakeError) Unit → Prop
  | dividesByZero (hdraws : ¬ (draws.valueX = 0 ∨ draws.valueP ≠ 0)) :
      HandshakeCase profile newFromSlice send draws received (.error .panic)
  | notSent (hdraws : draws.valueX = 0 ∨ draws.valueP ≠ 0)
      (hsend : ¬ InitializationSent profile send draws) (e : HandshakeError) :
      HandshakeCase profile newFromSlice send draws received (.error (.error e))
  | noChallenge (hdraws : draws.valueX = 0 ∨ draws.valueP ≠ 0)
      (hsend : InitializationSent profile send draws)
      (hreceived : ∀ b key rest, received ≠ .ok (.handshakeChallenge b key) :: rest)
      (e : HandshakeError) : HandshakeCase profile newFromSlice send draws received (.error (.error e))
  | wrongKey (hdraws : draws.valueX = 0 ∨ draws.valueP ≠ 0)
      (hsend : InitializationSent profile send draws) (b : UInt32) (key : UInt64)
      (rest : List (Except StreamError ClientPacket))
      (hreceived : received = .ok (.handshakeChallenge b key) :: rest)
      (hkey : ¬ KeyIsExpected profile newFromSlice draws b key) :
      HandshakeCase profile newFromSlice send draws received (.error .panic)
  | answered (hdraws : draws.valueX = 0 ∨ draws.valueP ≠ 0)
      (hsend : InitializationSent profile send draws) (b : UInt32) (key : UInt64)
      (rest : List (Except StreamError ClientPacket))
      (hreceived : received = .ok (.handshakeChallenge b key) :: rest)
      (hkey : KeyIsExpected profile newFromSlice draws b key) (challenge : UInt64)
      (hanswer : answer profile newFromSlice draws b = some challenge) (blowfish : BlowfishCompat)
      (countSeed crcSeed : UInt32) :
      HandshakeCase profile newFromSlice send draws received
        (finishHandshake send challenge rest { state := .challenged blowfish countSeed crcSeed }).1

theorem doHandshake_case (draws : RandomDraws) (received : List (Except StreamError ClientPacket)) :
    HandshakeCase profile newFromSlice send draws received
      (doHandshake profile newFromSlice send draws received new).1 := by
  rcases ha : gPowXModP profile (i64OfU32 draws.valueP) draws.valueX draws.valueG with _ | a
  · have hdraws : ¬ (draws.valueX = 0 ∨ draws.valueP ≠ 0) := by
      rw [← initializeSecurity_returns profile, ha]
      rintro ⟨a, h⟩
      cases h
    simp only [doHandshake, initializeSecurity_new_of_none ha]
    exact .dividesByZero hdraws
  · have hdraws : draws.valueX = 0 ∨ draws.valueP ≠ 0 := (initializeSecurity_returns profile).1 ⟨a, ha⟩
    have hinit := initializeSecurity_new ha
    have hsent := initializationSent_iff profile send hinit
    rcases hsend : send (initializationStage _) with e | ⟨⟩
    · rw [hsend] at hsent
      simp only [doHandshake, hinit, hsend]
      exact .notSent hdraws (by simp [hsent]) _
    · have hsent := hsent.2 hsend
      rcases received with _ | ⟨e | packet, rest⟩
      · simp only [doHandshake, hinit, hsend, nextPacket]
        exact .noChallenge hdraws hsent (by simp) _
      · simp only [doHandshake, hinit, hsend, nextPacket]
        exact .noChallenge hdraws hsent (by simp) _
      · cases packet with
        | handshakeAccepted =>
            simp only [doHandshake, hinit, hsend, nextPacket]
            exact .noChallenge hdraws hsent (by simp) _
        | other =>
            simp only [doHandshake, hinit, hsend, nextPacket]
            exact .noChallenge hdraws hsent (by simp) _
        | handshakeChallenge b key =>
            simp only [doHandshake, hinit, hsend, nextPacket, initializeWith]
            rcases hk : gPowXModP profile (i64OfU32 draws.valueP) draws.valueX b with _ | k
            · rw [startChallenge_started_of_none hk]
              refine .wrongKey hdraws hsent b key rest rfl ?_
              rintro ⟨a', k', -, hk', -⟩
              rw [hk] at hk'
              cases hk'
            · rcases startChallenge_started newFromSlice draws.countSeed draws.crcSeed
                draws.handshakeSeed a key hk with
                ⟨hmatch, hstart⟩ | ⟨hmatch, hstart⟩
              · rw [hstart]
                refine .answered hdraws hsent b key rest rfl ⟨a, k, ha, hk, hmatch⟩ _ ?_ _ _ _
                rw [answer, ha, hk]
                rfl
              · rw [hstart]
                refine .wrongKey hdraws hsent b key rest rfl ?_
                rintro ⟨a', k', ha', hk', hmatch'⟩
                rw [ha, Option.some_inj] at ha'
                rw [hk, Option.some_inj] at hk'
                rw [← ha', ← hk'] at hmatch'
                exact hmatch hmatch'

/-- The handshake succeeds exactly on a matching challenge and its acceptance. -/
theorem doHandshake_ok_iff (draws : RandomDraws) (received : List (Except StreamError ClientPacket)) :
    (doHandshake profile newFromSlice send draws received new).1 = .ok () ↔
      HandshakeAccepted profile newFromSlice send draws received := by
  have hcase := doHandshake_case profile newFromSlice send draws received
  generalize (doHandshake profile newFromSlice send draws received new).1 = result at hcase ⊢
  cases hcase with
  | dividesByZero hdraws =>
      refine ⟨nofun, ?_⟩
      rintro ⟨⟨init, started, hinit, -⟩, b, key, rest, challenge, -, ⟨a, k, ha, -⟩, -⟩
      exact absurd ((initializeSecurity_returns profile).1 ⟨a, ha⟩) hdraws
  | notSent hdraws hsend e => exact ⟨nofun, fun h => absurd h.1 hsend⟩
  | noChallenge hdraws hsend hreceived e =>
      refine ⟨nofun, ?_⟩
      rintro ⟨-, b, key, rest, challenge, h, -⟩
      exact absurd h (hreceived b key _)
  | wrongKey hdraws hsend b key rest hreceived hkey =>
      refine ⟨nofun, ?_⟩
      rintro ⟨-, b', key', rest', challenge, h, hkey', -⟩
      rw [hreceived] at h
      cases h
      exact absurd hkey' hkey
  | answered hdraws hsend b key rest hreceived hkey challenge hanswer blowfish countSeed crcSeed =>
      have hiff : HandshakeAccepted profile newFromSlice send draws received ↔
          send (.finalize challenge) = .ok () ∧ ∃ rest', rest = .ok .handshakeAccepted :: rest' := by
        constructor
        · rintro ⟨-, b', key', rest', challenge', h, -, hanswer', hfinal⟩
          rw [hreceived] at h
          cases h
          rw [hanswer, Option.some_inj] at hanswer'
          exact ⟨hanswer' ▸ hfinal, rest', rfl⟩
        · rintro ⟨hfinal, rest', rfl⟩
          exact ⟨hsend, b, key, rest', challenge, hreceived, hkey, hanswer, hfinal⟩
      rw [hiff]
      rcases finishHandshake_cases send challenge rest blowfish countSeed crcSeed with
        ⟨h, hok⟩ | ⟨h, e, he⟩
      · exact ⟨fun _ => h, fun _ => hok⟩
      · rw [he]
        exact ⟨nofun, fun h' => absurd h' h⟩

/-- The handshake panics exactly when the initialization divides by zero, or the first message is a
challenge whose key is not the expected one. -/
theorem doHandshake_panic_iff (draws : RandomDraws) (received : List (Except StreamError ClientPacket)) :
    (doHandshake profile newFromSlice send draws received new).1 = .error .panic ↔
      ¬ ((draws.valueX = 0 ∨ draws.valueP ≠ 0) ∧
        FirstKeyIsExpected profile newFromSlice send draws received) := by
  have hcase := doHandshake_case profile newFromSlice send draws received
  generalize (doHandshake profile newFromSlice send draws received new).1 = result at hcase ⊢
  cases hcase with
  | dividesByZero hdraws => exact ⟨fun _ h => hdraws h.1, fun _ => rfl⟩
  | notSent hdraws hsend e =>
      refine ⟨nofun, fun h => absurd ⟨hdraws, ?_⟩ h⟩
      exact fun _ _ _ _ hsend' => absurd hsend' hsend
  | noChallenge hdraws hsend hreceived e =>
      refine ⟨nofun, fun h => absurd ⟨hdraws, ?_⟩ h⟩
      exact fun b key rest h' _ => absurd h' (hreceived b key rest)
  | wrongKey hdraws hsend b key rest hreceived hkey =>
      exact ⟨fun _ h => hkey (h.2 b key rest hreceived hsend), fun _ => rfl⟩
  | answered hdraws hsend b key rest hreceived hkey challenge hanswer blowfish countSeed crcSeed =>
      have hfirst : FirstKeyIsExpected profile newFromSlice send draws received := by
        intro b' key' rest' h _
        rw [hreceived] at h
        cases h
        exact hkey
      refine ⟨fun h => ?_, fun h => absurd ⟨hdraws, hfirst⟩ h⟩
      rcases finishHandshake_cases send challenge rest blowfish countSeed crcSeed with
        ⟨-, hok⟩ | ⟨-, e, he⟩
      · rw [hok] at h
        cases h
      · rw [he] at h
        cases h

end Handshake

/-- **The handshake fails cleanly exactly when the initialization does not divide by zero and the first
message is not a challenge whose key is not the expected one.** -/
theorem handshakeIsClean_iff (profile : Profile) (newFromSlice : Block → BlowfishCompat)
    (send : HandshakeStage → Except StreamError Unit) (draws : RandomDraws)
    (received : List (Except StreamError ClientPacket)) :
    HandshakeIsClean profile newFromSlice send draws received ↔
      (draws.valueX = 0 ∨ draws.valueP ≠ 0) ∧
        FirstKeyIsExpected profile newFromSlice send draws received := by
  have hpanic := doHandshake_panic_iff profile newFromSlice send draws received
  constructor
  · intro h
    by_contra hcond
    have hresult := hpanic.2 hcond
    obtain ⟨e, he⟩ := h.error (by rw [hresult]; simp)
    rw [hresult] at he
    cases he
  · intro hcond
    refine ⟨doHandshake_ok_iff profile newFromSlice send draws received, fun hne => ?_⟩
    rcases hresult : (doHandshake profile newFromSlice send draws received new).1 with (e | _) | ⟨⟩
    · exact ⟨e, rfl⟩
    · exact absurd hcond (hpanic.1 hresult)
    · exact absurd hresult hne

/-- A recorded key message with a wrong bit panics. -/
theorem wrong_key_panics :
    (doHandshake .release (fun _ => recordedBlowfish) (fun _ => .ok ()) recordedDraws
        [.ok (.handshakeChallenge 0x4339047a 0x6418bb163fec0268)] new).1 = .error .panic ∧
      ¬ HandshakeIsClean .release (fun _ => recordedBlowfish) (fun _ => .ok ()) recordedDraws
        [.ok (.handshakeChallenge 0x4339047a 0x6418bb163fec0268)] := by
  have hpanic : (doHandshake .release (fun _ => recordedBlowfish) (fun _ => .ok ()) recordedDraws
      [.ok (.handshakeChallenge 0x4339047a 0x6418bb163fec0268)] new).1 = .error .panic := by
    rw [doHandshake_panic_iff]
    rintro ⟨-, hfirst⟩
    obtain ⟨ha, hk⟩ := recorded_powers .release
    have hsent : InitializationSent .release (fun _ => .ok ()) recordedDraws :=
      ⟨_, _, initializeSecurity_new ha, rfl⟩
    obtain ⟨a, k, ha', hk', hmatch⟩ := hfirst _ _ _ rfl hsent
    obtain rfl := Option.some_inj.1 (ha.symm.trans ha')
    obtain rfl := Option.some_inj.1 (hk.symm.trans hk')
    rw [KeyMatches] at hmatch
    exact absurd hmatch (by decide)
  refine ⟨hpanic, fun h => ?_⟩
  obtain ⟨e, he⟩ := h.error (by rw [hpanic]; nofun)
  rw [hpanic] at he
  cases he

end Skrillax
