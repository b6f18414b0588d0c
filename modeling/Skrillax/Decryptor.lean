/-
**Breaking a recorded exchange.**

The decryptor reads the prime, the generator and the power of the server from a recording, searches for an
exponent that gives this power, and goes through the handshake with it in place of the server.  The exponent
need not be that of the server: all that the handshake does with it is to raise the power of the client to
it, and that gives the same key for every exponent with the same power.

Main definitions:

* `findX` — the search, over the slices of as many threads as there are;
* `breakSecurity` — the first exponent that goes through the handshake;
* `SecurityData.recorded` — what is recorded of an exchange.

Main results:

* `findX_spec` — what is found gives the recorded power;
* `startChallenge_same_power` — an exponent with the power of the server takes the key of an honest client;
* `break_security_recovers` — **the first candidate goes through, and has the key of the server**.
-/

import Skrillax.KeyExchange
import Skrillax.SlicedSearch

set_option relaxedAutoImplicit false
set_option autoImplicit false

namespace Skrillax

open Rust SilkroadSecurity SlicedSearch

/-! ### The search -/

/-- The width of the slice of a thread. -/
def searchSteps (threadCount : UInt32) : UInt32 := (0xFFFFFFFF / 2) / threadCount

/-- The exponent gives this power. -/
def givesPower (profile : Profile) (valueP valueG valueA : UInt32) (i : ℕ) : Option Bool :=
  (gPowXModP profile (i64OfU32 valueP) (UInt32.ofNat i) valueG).map (· == valueA)

/-- Every thread searches from `thread * steps` to `(thread + 1) * steps`, which stays below `2 ^ 31`.  A panic of
a thread is passed on, and so is a division by no threads. -/
def findX (profile : Profile) (threads : UInt8) (valueP valueG valueA : UInt32) : Option (List UInt32) :=
  let threadCount := threads.toUInt32
  if threadCount = 0 then none
  else
    let steps := searchSteps threadCount
    (findSlices (givesPower profile valueP valueG valueA) steps.toNat threadCount.toNat).map
      (List.map UInt32.ofNat)

/-! ### The handshake with a candidate -/

/-- What is recorded of the server. -/
structure SecurityData where
  handshakeBytes : UInt64
  g : UInt32
  p : UInt32
  a : UInt32
  deriving DecidableEq

section Breaking

variable (profile : Profile) (newFromSlice : Block → BlowfishCompat)

/-- The handshake with an exponent, up to the challenge. -/
def challengeWith (input : SecurityData) (clientB : UInt32) (clientKey : UInt64) (option : UInt32) :
    Except (Failure SilkroadSecurityError) UInt64 × SilkroadSecurity :=
  startChallenge profile newFromSlice clientB clientKey
    (initializeWith 0 0 input.handshakeBytes option input.p input.a new)

/-- The loop over the options; `none` is a panic. -/
def tryOptions (input : SecurityData) (clientB : UInt32) (clientKey : UInt64) :
    List UInt32 → Option (Option SilkroadSecurity)
  | [] => some none
  | option :: options =>
      match challengeWith profile newFromSlice input clientB clientKey option with
      | (.ok _, security) =>
          match acceptChallenge security with
          | (.ok (), security) => some (some security)
          | (.error _, _) => none
      | (.error .panic, _) => none
      | (.error (.error _), _) => tryOptions input clientB clientKey options

def breakSecurity (threads : UInt8) (input : SecurityData) (clientB : UInt32) (clientKey : UInt64) :
    Option (Option SilkroadSecurity) :=
  (findX profile threads input.p input.g input.a).bind
    (tryOptions profile newFromSlice input clientB clientKey)

end Breaking

/-! ### What is found -/

/-- The exponents that are searched with this many threads are those below this number. -/
def searched (threads : ℕ) : ℕ := threads * (2147483647 / threads)

theorem searched_le (threads : ℕ) : searched threads ≤ 2147483647 := Nat.mul_div_le 2147483647 threads

section Found

variable {profile : Profile} {threads : UInt8} {p g : UInt32} {x : ℕ}

theorem toNat_power (hp : 2 ≤ p.toNat) (hp' : p.toNat < 2 ^ 31) (n : ℕ) :
    (UInt32.ofNat (n % p.toNat)).toNat = n % p.toNat := by
  have hlt := Nat.mod_lt n (show 0 < p.toNat by omega)
  exact UInt32.toNat_ofNat_of_lt' (show n % p.toNat < 2 ^ 32 by omega)

theorem givesPower_eq (hp : 2 ≤ p.toNat) (hp' : p.toNat < 2 ^ 31) (hg : g.toNat < 2 ^ 31) {i : ℕ}
    (hi : i < 2147483647) :
    givesPower profile p g (UInt32.ofNat (g.toNat ^ x % p.toNat)) i =
      some (decide (g.toNat ^ i % p.toNat = g.toNat ^ x % p.toNat)) := by
  have hnat : (UInt32.ofNat i).toNat = i := UInt32.toNat_ofNat_of_lt' (show i < 2 ^ 32 by omega)
  rw [givesPower, gPowXModP_eq profile hp hp' (by omega), hnat, Option.map_some, Option.some_inj]
  have hiff : UInt32.ofNat (g.toNat ^ i % p.toNat) = UInt32.ofNat (g.toNat ^ x % p.toNat) ↔
      g.toNat ^ i % p.toNat = g.toNat ^ x % p.toNat := by
    rw [← UInt32.toNat_inj, toNat_power hp hp', toNat_power hp hp']
  exact decide_eq_decide.2 hiff

theorem findX_eq (hthreads : threads ≠ 0) (valueA : UInt32) : findX profile threads p g valueA =
    (findSlices (givesPower profile p g valueA) (2147483647 / threads.toNat) threads.toNat).map
      (List.map UInt32.ofNat) := by
  have hne : threads.toUInt32 ≠ 0 := by
    intro h
    refine hthreads (UInt8.toNat_inj.1 ?_)
    rw [← UInt8.toNat_toUInt32, h]
    rfl
  unfold findX
  simp only [if_neg hne, searchSteps, UInt32.toNat_div, UInt8.toNat_toUInt32]
  rfl

/-- The search returns for every modulus that can be divided by. -/
theorem findX_isSome (profile : Profile) (x : ℕ) (hthreads : threads ≠ 0) (hp : 2 ≤ p.toNat)
    (hp' : p.toNat < 2 ^ 31) (hg : g.toNat < 2 ^ 31) :
    (findX profile threads p g (UInt32.ofNat (g.toNat ^ x % p.toNat))).isSome = true := by
  rw [findX_eq hthreads, Option.isSome_map]
  refine findSlices_isSome fun m hm => ?_
  have hle := searched_le threads.toNat
  unfold searched at hle
  rw [givesPower_eq hp hp' hg (by omega)]
  rfl

/-- What is found gives the power, and something is found if there is anything to find. -/
theorem findX_spec (hp : 2 ≤ p.toNat) (hp' : p.toNat < 2 ^ 31) (hg : g.toNat < 2 ^ 31)
    {candidates : List UInt32}
    (h : findX profile threads p g (UInt32.ofNat (g.toNat ^ x % p.toNat)) = some candidates) :
    (∀ candidate ∈ candidates, g.toNat ^ candidate.toNat % p.toNat = g.toNat ^ x % p.toNat) ∧
      (candidates ≠ [] ↔ ∃ m < searched threads.toNat, g.toNat ^ m % p.toNat = g.toNat ^ x % p.toNat) := by
  have hthreads : threads ≠ 0 := by
    rintro rfl
    cases h
  have hle := searched_le threads.toNat
  rw [findX_eq hthreads] at h
  obtain ⟨results, hresults, rfl⟩ := Option.map_eq_some_iff.1 h
  obtain ⟨hpasses, hfound⟩ := findSlices_spec hresults
  have hiff {m : ℕ} (hm : m < searched threads.toNat) :
      givesPower profile p g (UInt32.ofNat (g.toNat ^ x % p.toNat)) m = some true ↔
        g.toNat ^ m % p.toNat = g.toNat ^ x % p.toNat := by
    rw [givesPower_eq hp hp' hg (by omega), Option.some_inj, decide_eq_true_iff]
  constructor
  · intro candidate hcandidate
    obtain ⟨m, hm, rfl⟩ := List.mem_map.1 hcandidate
    obtain ⟨hlt, htest⟩ := hpasses m hm
    have hlt' : m < searched threads.toNat := hlt
    rw [UInt32.toNat_ofNat_of_lt' (show m < 2 ^ 32 by omega)]
    exact (hiff hlt).1 htest
  · rw [Ne, List.map_eq_nil_iff]
    refine hfound.trans (exists_congr fun m => and_congr_right fun hm => ?_)
    exact hiff hm

end Found

/-! ### Going through the handshake -/

/-- What is recorded of an exchange. -/
def SecurityData.recorded (init : InitializationData) : SecurityData :=
  ⟨init.handshakeSeed, init.additionalSeeds[0]!, init.additionalSeeds[1]!, init.additionalSeeds[2]!⟩

/-- The key of the messages, once the handshake is complete. -/
def SilkroadSecurity.sessionBlowfish (security : SilkroadSecurity) : Option BlowfishCompat :=
  match security.state with
  | .established blowfish _ _ => some blowfish
  | _ => none

section Breaking

variable {profile : Profile} {newFromSlice : Block → BlowfishCompat}

/-- The power of the client's power is the same for all exponents with the power of the server. -/
theorem pow_mod_pow_mod_of_same {g x x' y p : ℕ} (h : g ^ x' % p = g ^ x % p) :
    (g ^ y % p) ^ x' % p = (g ^ x % p) ^ y % p := by
  rw [pow_mod_pow_mod, h]

/-- **An exponent with the power of the server takes the key of an honest client.** -/
theorem startChallenge_same_power (profile : Profile) (newFromSlice : Block → BlowfishCompat)
    {client : HonestClient} {x x' : UInt32} (countSeed crcSeed : UInt32) (hp : 2 ≤ client.valueP.toNat)
    (hp' : client.valueP.toNat < 2 ^ 31)
    (ha : client.valueA = UInt32.ofNat (client.valueG.toNat ^ x.toNat % client.valueP.toNat))
    (hsame : client.valueG.toNat ^ x'.toNat % client.valueP.toNat =
      client.valueG.toNat ^ x.toNat % client.valueP.toNat) :
    startChallenge profile newFromSlice client.valueB (client.keyMessage newFromSlice)
        (initializeWith countSeed crcSeed client.init.handshakeSeed x' client.valueP client.valueA new) =
      (.ok ((client.blowfish newFromSlice).encryptU64 client.expectedChallenge),
       { state := .challenged (blowfishFromInt newFromSlice client.sessionKey) countSeed crcSeed }) := by
  have hk : gPowXModP profile (i64OfU32 client.valueP) x' client.valueB = some client.valueK := by
    have hb : client.valueB.toNat = client.valueG.toNat ^ client.valueY.toNat % client.valueP.toNat :=
      toNat_power hp hp' _
    have hlt := Nat.mod_lt (client.valueG.toNat ^ client.valueY.toNat) (show 0 < client.valueP.toNat by omega)
    rw [gPowXModP_eq profile hp hp' (by omega), hb, pow_mod_pow_mod_of_same hsame]
    unfold HonestClient.valueK
    rw [ha, toNat_power hp hp']
  rcases startChallenge_started newFromSlice countSeed crcSeed client.init.handshakeSeed client.valueA
      (client.keyMessage newFromSlice) hk with ⟨-, hstart⟩ | ⟨hmismatch, -⟩
  · exact hstart
  · exact absurd (BlowfishCompat.decryptU64_encryptU64 _ _).symm hmismatch

/-- What is recorded of an initialization. -/
theorem initializeSecurity_ok (profile : Profile) (seed handshakeSeed : UInt64) (countSeed crcSeed : UInt32)
    {g x p : UInt32} (hp : 2 ≤ p.toNat)
    (hp' : p.toNat < 2 ^ 31) (hg : g.toNat < 2 ^ 31) (hx : x.toNat < 2 ^ 31) :
    initializeSecurity profile { seed, countSeed, crcSeed, handshakeSeed, x, g, p } new =
      (.ok { seed, countSeed, crcSeed, handshakeSeed,
             additionalSeeds := #v[g, p, UInt32.ofNat (g.toNat ^ x.toNat % p.toNat)] },
       initializeWith countSeed crcSeed handshakeSeed x p (UInt32.ofNat (g.toNat ^ x.toNat % p.toNat)) new) := by
  let draws : RandomDraws := { seed, countSeed, crcSeed, handshakeSeed, x, g, p }
  have hvalueX : draws.valueX = x := and_mask_of_lt hx
  have hvalueG : draws.valueG = g := and_mask_of_lt hg
  have hvalueP : draws.valueP = p := and_mask_of_lt hp'
  have ha : gPowXModP profile (i64OfU32 draws.valueP) draws.valueX draws.valueG =
      some (UInt32.ofNat (g.toNat ^ x.toNat % p.toNat)) := by
    rw [hvalueX, hvalueG, hvalueP]
    exact gPowXModP_eq profile hp hp' (by omega)
  have hinit := initializeSecurity_new ha
  rwa [hvalueX, hvalueG, hvalueP] at hinit

theorem acceptChallenge_challenged (blowfish : BlowfishCompat) (countSeed crcSeed : UInt32) :
    acceptChallenge { state := .challenged blowfish countSeed crcSeed } =
      (.ok (), { state := .established blowfish (generateCountSeed countSeed) crcSeed }) := rfl

/-- A candidate that goes through is the last one that is tried. -/
theorem breakSecurity_of_challenged {threads : UInt8} {input : SecurityData} {clientB : UInt32}
    {clientKey challenge : UInt64} {candidate : UInt32} {candidates : List UInt32} {blowfish : BlowfishCompat}
    {countSeed crcSeed : UInt32}
    (hfound : findX profile threads input.p input.g input.a = some (candidate :: candidates))
    (h : challengeWith profile newFromSlice input clientB clientKey candidate =
      (.ok challenge, { state := .challenged blowfish countSeed crcSeed })) :
    breakSecurity profile newFromSlice threads input clientB clientKey =
      some (some { state := .established blowfish (generateCountSeed countSeed) crcSeed }) := by
  rw [breakSecurity, hfound, Option.bind_some, tryOptions, h]
  simp only [acceptChallenge_challenged]

theorem sessionBlowfish_established (blowfish : BlowfishCompat) (countSeed : Vector UInt8 3) (crcSeed : UInt32) :
    SilkroadSecurity.sessionBlowfish { state := .established blowfish countSeed crcSeed } = some blowfish := rfl

/-- The server with its exponent, and the decryptor with one that has the same power. -/
theorem breakSecurity_same_power (newFromSlice : Block → BlowfishCompat) (client : HonestClient)
    {threads : UInt8} {x candidate : UInt32} {candidates : List UInt32} (countSeed crcSeed : UInt32) (hp : 2 ≤ client.valueP.toNat)
    (hp' : client.valueP.toNat < 2 ^ 31)
    (ha : client.valueA = UInt32.ofNat (client.valueG.toNat ^ x.toNat % client.valueP.toNat))
    (hsame : client.valueG.toNat ^ candidate.toNat % client.valueP.toNat =
      client.valueG.toNat ^ x.toNat % client.valueP.toNat)
    (hfound : findX profile threads client.valueP client.valueG client.valueA = some (candidate :: candidates)) :
    ∃ challenge challenged server answer accepted security,
      startChallenge profile newFromSlice client.valueB (client.keyMessage newFromSlice)
        (initializeWith countSeed crcSeed client.init.handshakeSeed x client.valueP client.valueA new) =
          (.ok challenge, challenged) ∧
      acceptChallenge challenged = (.ok (), server) ∧
      challengeWith profile newFromSlice (SecurityData.recorded client.init) client.valueB
        (client.keyMessage newFromSlice) candidate = (.ok answer, accepted) ∧
      acceptChallenge accepted = (.ok (), security) ∧
      breakSecurity profile newFromSlice threads (SecurityData.recorded client.init) client.valueB
        (client.keyMessage newFromSlice) = some (some security) ∧
      security.sessionBlowfish = some (blowfishFromInt newFromSlice client.sessionKey) ∧
      server.sessionBlowfish = security.sessionBlowfish := by
  have hserver := startChallenge_same_power profile newFromSlice countSeed crcSeed hp hp' ha rfl
  have hbroken : challengeWith profile newFromSlice (SecurityData.recorded client.init) client.valueB
      (client.keyMessage newFromSlice) candidate =
        (.ok ((client.blowfish newFromSlice).encryptU64 client.expectedChallenge),
         { state := .challenged (blowfishFromInt newFromSlice client.sessionKey) 0 0 }) :=
    startChallenge_same_power profile newFromSlice 0 0 hp hp' ha hsame
  refine ⟨_, _, _, _, _, _, hserver, acceptChallenge_challenged _ _ _, hbroken, acceptChallenge_challenged _ _ _,
    breakSecurity_of_challenged hfound hbroken, sessionBlowfish_established _ _ _, ?_⟩
  rw [sessionBlowfish_established, sessionBlowfish_established]

end Breaking

/-- **The first candidate goes through the handshake, and has the key of the server.** -/
theorem break_security_recovers (profile : Profile) (newFromSlice : Block → BlowfishCompat) (threads : UInt8)
    (seed handshakeSeed : UInt64) (countSeed crcSeed g x p y : UInt32) (hp : 2 ≤ p.toNat)
    (hp' : p.toNat < 2 ^ 31) (hg : g.toNat < 2 ^ 31) (hx : x.toNat < 2 ^ 31) (candidate : UInt32)
    (candidates : List UInt32)
    (hfound : findX profile threads p g (UInt32.ofNat (g.toNat ^ x.toNat % p.toNat)) =
      some (candidate :: candidates)) :
    ∃ init started challenge challenged server answer accepted security,
      initializeSecurity profile { seed, countSeed, crcSeed, handshakeSeed, x, g, p } new =
        (.ok init, started) ∧
      let client : HonestClient := { init, valueY := y }
      let key := client.keyMessage newFromSlice
      startChallenge profile newFromSlice client.valueB key started = (.ok challenge, challenged) ∧
      acceptChallenge challenged = (.ok (), server) ∧
      challengeWith profile newFromSlice (SecurityData.recorded init) client.valueB key candidate =
        (.ok answer, accepted) ∧
      acceptChallenge accepted = (.ok (), security) ∧
      breakSecurity profile newFromSlice threads (SecurityData.recorded init) client.valueB key =
        some (some security) ∧
      security.sessionBlowfish = some (blowfishFromInt newFromSlice client.sessionKey) ∧
      server.sessionBlowfish = security.sessionBlowfish := by
  have hsame := (findX_spec hp hp' hg hfound).1 candidate List.mem_cons_self
  have hinit := initializeSecurity_ok profile seed handshakeSeed countSeed crcSeed hp hp' hg hx
  obtain ⟨a, ha⟩ : ∃ a, UInt32.ofNat (g.toNat ^ x.toNat % p.toNat) = a := ⟨_, rfl⟩
  rw [ha] at hfound hinit
  let client : HonestClient :=
    { init := { seed, countSeed, crcSeed, handshakeSeed, additionalSeeds := #v[g, p, a] }, valueY := y }
  obtain ⟨challenge, challenged, server, answer, accepted, security, hbroken⟩ :=
    breakSecurity_same_power newFromSlice client countSeed crcSeed hp hp' ha.symm hsame hfound
  exact ⟨client.init, _, challenge, challenged, server, answer, accepted, security, hinit, hbroken⟩

/-- The recorded exchange, searched by one thread. -/
theorem break_security_recovers_the_recording : ∃ candidate candidates,
    findX .debug 1 0x5213f40d 0x20f50b95 (UInt32.ofNat ((0x20f50b95 : UInt32).toNat ^ (189993144 : UInt32).toNat %
      (0x5213f40d : UInt32).toNat)) = some (candidate :: candidates) ∧
    ∃ init started challenge challenged server answer accepted security,
      initializeSecurity .debug recordedDraws new = (.ok init, started) ∧
      let client : HonestClient := { init, valueY := 523780603 }
      let key := client.keyMessage fun _ => recordedBlowfish
      startChallenge .debug (fun _ => recordedBlowfish) client.valueB key started = (.ok challenge, challenged) ∧
      acceptChallenge challenged = (.ok (), server) ∧
      challengeWith .debug (fun _ => recordedBlowfish) (SecurityData.recorded init) client.valueB key candidate =
        (.ok answer, accepted) ∧
      acceptChallenge accepted = (.ok (), security) ∧
      breakSecurity .debug (fun _ => recordedBlowfish) 1 (SecurityData.recorded init) client.valueB key =
        some (some security) ∧
      security.sessionBlowfish = some (blowfishFromInt (fun _ => recordedBlowfish) client.sessionKey) ∧
      server.sessionBlowfish = security.sessionBlowfish := by
  have hp : 2 ≤ (0x5213f40d : UInt32).toNat := by decide
  have hp' : (0x5213f40d : UInt32).toNat < 2 ^ 31 := by decide
  have hg : (0x20f50b95 : UInt32).toNat < 2 ^ 31 := by decide
  have hx : (189993144 : UInt32).toNat < searched (1 : UInt8).toNat := by decide
  have hthreads : (1 : UInt8) ≠ 0 := by decide
  obtain ⟨options, hoptions⟩ := Option.isSome_iff_exists.1
    (findX_isSome .debug (189993144 : UInt32).toNat hthreads hp hp' hg)
  have hne : options ≠ [] := (findX_spec hp hp' hg hoptions).2.2 ⟨_, hx, rfl⟩
  obtain ⟨candidate, candidates, rfl⟩ := List.exists_cons_of_ne_nil hne
  exact ⟨candidate, candidates, hoptions, break_security_recovers .debug (fun _ => recordedBlowfish) 1 0
    0x175e97ae769689bf 0 0 0x20f50b95 189993144 0x5213f40d 523780603 hp hp' hg (by decide) candidate candidates
    hoptions⟩

end Skrillax
