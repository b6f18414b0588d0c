/-
**The key exchange.**

The server draws a group, a generator and a secret exponent and sends the client the generator, the
modulus and its power.  The client answers with its own power and an encrypted key message; the server
computes the shared key, checks the message and answers with a challenge.  The keys of Blowfish are made
from the two powers and the shared key by `transform_key`.

The modulus is random and may be zero, and the power that the client sends is any word of 32 bits: the
first squaring is of an unreduced value.

Main definitions:

* `gPowXModP`, `transformKey`, `toU64`, `blowfishFromInt` — the arithmetic of the exchange;
* `SilkroadSecurity.initializeSecurity`, `SilkroadSecurity.initializeWith`, `SilkroadSecurity.restart`,
  `SilkroadSecurity.startChallenge`, `SilkroadSecurity.acceptChallenge` — the methods, each with its
  result and the state that it leaves behind;
* `HonestClient` — a client, with the powers of the exchange as numbers.

Main results:

* `gPowXModP_eq` — the loop computes the power;
* `honest_client_agrees` — **an honest client and the server agree on the key**;
* `exchangeReturns_iff` — **the exchange neither overflows nor divides by zero exactly when the modulus is
  not zero and the square of the client's value fits, or nothing is multiplied at all**.
-/

import Skrillax.RustInt
import Skrillax.Security
import Skrillax.SquareMultiply

set_option relaxedAutoImplicit false
set_option autoImplicit false

namespace Skrillax

open Rust

/-! ### Words -/

def LOWORD (a : UInt32) : UInt16 := (a &&& 0xFFFF).toUInt16

def HIWORD (a : UInt32) : UInt16 := ((a >>> 16) &&& 0xFFFF).toUInt16

def LOBYTE (a : UInt16) : UInt8 := (a &&& 0xFF).toUInt8

def HIBYTE (a : UInt16) : UInt8 := ((a >>> 8) &&& 0xFF).toUInt8

def toU64 (low high : UInt32) : UInt64 := (high.toUInt64 <<< 32) ||| low.toUInt64

/-- `u64::to_le_bytes`. -/
def toLeBytes (v : UInt64) : Block :=
  ⟨(LittleEndian.encode 8 v.toNat).toArray, by rw [List.size_toArray, LittleEndian.length_encode]⟩

/-- `LittleEndian::read_u64`. -/
def readU64 (bytes : Block) : UInt64 := UInt64.ofNat (LittleEndian.decode bytes.toList)

theorem toList_toLeBytes (v : UInt64) : (toLeBytes v).toList = LittleEndian.encode 8 v.toNat := by
  rw [Vector.toList, toLeBytes]

@[simp] theorem readU64_toLeBytes (v : UInt64) : readU64 (toLeBytes v) = v := by
  rw [readU64, toList_toLeBytes, LittleEndian.decode_encode_of_lt v.toNat_lt, UInt64.ofNat_toNat]

@[simp] theorem toLeBytes_readU64 (bytes : Block) : toLeBytes (readU64 bytes) = bytes := by
  have hlt := LittleEndian.decode_lt bytes.toList
  have hencode := LittleEndian.encode_decode bytes.toList
  rw [Vector.length_toList] at hlt hencode
  apply Vector.toList_inj.1
  rw [toList_toLeBytes, readU64, UInt64.toNat_ofNat_of_lt' hlt, hencode]

/-! ### Powers modulo a number -/

/-- The product of two factors modulo `p`; the product may overflow, and `p` may be zero. -/
def mulMod (profile : Profile) (p a b : Int64) : Option Int64 :=
  (profile.mulI64 a b).bind fun product => remI64 product p

/-- The loop of `g_pow_x_mod_p`. -/
def gPowXModPLoop (profile : Profile) (p : Int64) (x : UInt32) (current mult : Int64) : Option Int64 :=
  if x ≠ 0 then
    (if x &&& 1 > 0 then mulMod profile p mult current else some current).bind fun current =>
      (mulMod profile p mult mult).bind fun mult => gPowXModPLoop profile p (x >>> 1) current mult
  else
    some current
termination_by x.toNat
decreasing_by
  rename_i hx
  have hpos : x.toNat ≠ 0 := fun h => hx (UInt32.toNat_inj.1 h)
  rw [UInt32.toNat_shiftRight]
  exact Nat.div_lt_self (Nat.pos_of_ne_zero hpos) (by decide)

def gPowXModP (profile : Profile) (p : Int64) (x g : UInt32) : Option UInt32 :=
  (gPowXModPLoop profile p x 1 (i64OfU32 g)).map u32OfI64

/-- The loop over the bits of a word is the loop over the digits of its value. -/
theorem gPowXModPLoop_eq (profile : Profile) (p : Int64) (x : UInt32) (current mult : Int64) :
    gPowXModPLoop profile p x current mult =
      SquareMultiply.powLoop (mulMod profile p) x.toNat current mult := by
  induction h : x.toNat using Nat.strong_induction_on generalizing x current mult with
  | _ n ih =>
      subst h
      rw [gPowXModPLoop]
      split
      · rename_i hx
        have hpos : x.toNat ≠ 0 := fun h => hx (UInt32.toNat_inj.1 h)
        have hbit : x &&& 1 > 0 ↔ x.toNat % 2 = 1 := by
          rw [gt_iff_lt, UInt32.lt_iff_toNat_lt, UInt32.toNat_and, UInt32.toNat_one, Nat.and_one_is_mod,
            UInt32.toNat_zero]
          omega
        have hshift : (x >>> 1).toNat = x.toNat / 2 := by
          rw [UInt32.toNat_shiftRight]
          rfl
        rw [SquareMultiply.powLoop_of_ne_zero hpos]
        simp only [hbit]
        congr 1
        funext current'
        congr 1
        funext mult'
        rw [ih (x >>> 1).toNat (by omega) (x >>> 1) current' mult' rfl, hshift]
      · rename_i hx
        rw [not_ne_iff.1 hx]
        exact (SquareMultiply.powLoop_zero current mult).symm

/-- The values that can be multiplied with each other without an overflow. -/
def Multipliable : Set Int64 := {a | 0 ≤ a.toInt ∧ a.toInt * a.toInt < 2 ^ 63}

theorem mul_multipliable {a b : Int64} (ha : a ∈ Multipliable) (hb : b ∈ Multipliable) :
    0 ≤ a.toInt * b.toInt ∧ a.toInt * b.toInt < 2 ^ 63 := by
  obtain ⟨ha, haa⟩ := ha
  obtain ⟨hb, hbb⟩ := hb
  exact ⟨Int.mul_nonneg ha hb, by nlinarith only [ha, hb, haa, hbb]⟩

/-- Multipliable values represent the residues modulo a number below `2 ^ 31`. -/
theorem represents_mulMod (profile : Profile) {p : Int64} (hpos : 0 < p.toInt)
    (hlt : p.toInt ≤ 2 ^ 31) :
    SquareMultiply.Represents (mulMod profile p) Multipliable
      (fun a => (a.toInt : ZMod p.toInt.toNat)) := by
  constructor
  intro a ha b hb
  obtain ⟨hnonneg, hbound⟩ := mul_multipliable ha hb
  obtain ⟨c, hc, hcval⟩ := mulI64_of_fits (p := profile) (x := a) (y := b) ⟨by omega, hbound⟩
  obtain ⟨r, hr, hrval⟩ := remI64_of_pos (x := c) (y := p) (by omega) hpos
  have hr0 := Int.emod_nonneg c.toInt hpos.ne'
  have hr1 := Int.emod_lt_of_pos c.toInt hpos
  refine ⟨r, ⟨by omega, by rw [hrval]; nlinarith only [hr0, hr1, hlt]⟩, ?_, ?_⟩
  · rw [mulMod, hc, Option.bind_some, hr]
  · have hp : ((p.toInt.toNat : ℕ) : ℤ) = p.toInt := Int.toNat_of_nonneg hpos.le
    have hmod : ((c.toInt % p.toInt : ℤ) : ZMod p.toInt.toNat) = (c.toInt : ZMod p.toInt.toNat) := by
      rw [ZMod.intCast_eq_intCast_iff, hp]
      exact Int.mod_modEq _ _
    rw [hrval, hmod, hcval, Int.cast_mul]

theorem mulMod_reduced {profile : Profile} {p a b c : Int64} (hpos : 0 < p.toInt)
    (h : mulMod profile p a b = some c) : c.toInt < p.toInt := by
  obtain ⟨d, -, hd⟩ := Option.bind_eq_some_iff.1 h
  rw [remI64] at hd
  split at hd
  · cases hd
  · cases hd
    rw [Int64.toInt_mod]
    exact Int.tmod_lt_of_pos _ hpos

theorem one_multipliable : (1 : Int64) ∈ Multipliable := ⟨by decide, by decide⟩

theorem multipliable_iff (b : UInt32) : i64OfU32 b ∈ Multipliable ↔ b.toNat < 3037000500 := by
  rw [Multipliable, Set.mem_ofPred_eq, toInt_i64OfU32]
  constructor
  · rintro ⟨-, h⟩
    by_contra hle
    have : (3037000500 : ℤ) ≤ b.toNat := by omega
    nlinarith only [h, this]
  · intro h
    have : (b.toNat : ℤ) ≤ 3037000499 := by omega
    exact ⟨by omega, by nlinarith only [this]⟩

/-- Without an overflow the loop computes the power. -/
theorem exists_gPowXModPLoop (profile : Profile) {p : Int64} (hp : 2 ≤ p.toInt) (hp' : p.toInt < 2 ^ 31)
    {x g : UInt32} (hg : g.toNat < 3037000500) :
    ∃ r, gPowXModPLoop profile p x 1 (i64OfU32 g) = some r ∧
      r.toInt = (g.toNat : ℤ) ^ x.toNat % p.toInt := by
  have hpos : 0 < p.toInt := by omega
  obtain ⟨r, ⟨hr0, -⟩, hr, hval⟩ := (represents_mulMod profile hpos (by omega)).powLoop x.toNat
    one_multipliable ((multipliable_iff g).2 hg)
  have hrlt : r.toInt < p.toInt :=
    SquareMultiply.powLoop_of_mul (P := fun c => c.toInt < p.toInt)
      (fun _ _ _ h => mulMod_reduced hpos h) x.toNat (by rw [Int64.toInt_one]; omega) hr
  refine ⟨r, by rw [gPowXModPLoop_eq, hr], ?_⟩
  rw [toInt_i64OfU32, Int64.toInt_one, Int.cast_one, mul_one] at hval
  have hmod : r.toInt ≡ (g.toNat : ℤ) ^ x.toNat [ZMOD p.toInt.toNat] := by
    rw [← ZMod.intCast_eq_intCast_iff, hval]
    push_cast
    rfl
  rw [Int.toNat_of_nonneg hpos.le, Int.ModEq, Int.emod_eq_of_lt hr0 hrlt] at hmod
  exact hmod

/-- The power with a modulus from a word. -/
theorem gPowXModP_eq (profile : Profile) {p x g : UInt32} (hp : 2 ≤ p.toNat) (hp' : p.toNat < 2 ^ 31)
    (hg : g.toNat < 3037000500) :
    gPowXModP profile (i64OfU32 p) x g = some (UInt32.ofNat (g.toNat ^ x.toNat % p.toNat)) := by
  have hpi := toInt_i64OfU32 p
  obtain ⟨r, hr, hval⟩ := exists_gPowXModPLoop profile (p := i64OfU32 p) (x := x) (by omega) (by omega) hg
  have hresult : r.toInt = (g.toNat ^ x.toNat % p.toNat : ℕ) := by
    rw [hval, hpi]
    norm_cast
  rw [gPowXModP, hr, Option.map_some, u32OfI64_eq hresult]

/-- With a modulus from a word, a product is reduced exactly when it does not overflow, or wraps around, and
the modulus is not zero. -/
theorem mulMod_isSome {profile : Profile} {p : UInt32} {a b : Int64} :
    (mulMod profile (i64OfU32 p) a b).isSome = true ↔
      (Profile.FitsI64 (a.toInt * b.toInt) ∨ profile = .release) ∧ p ≠ 0 := by
  have hrem : ∀ c, (remI64 c (i64OfU32 p)).isSome = true ↔ p ≠ 0 := by
    intro c
    have hp := toInt_i64OfU32 p
    have hzero : i64OfU32 p = 0 ↔ p = 0 := by
      rw [← Int64.toInt_inj, hp, ← UInt32.toNat_inj, Int64.toInt_zero, UInt32.toNat_zero]
      omega
    have hneg : i64OfU32 p ≠ -1 := by
      intro h
      rw [h] at hp
      have hone : (-1 : Int64).toInt = -1 := rfl
      omega
    rw [remI64, Ne, ← hzero]
    split
    · rename_i h
      rcases h with h | ⟨-, h⟩
      · simp [h]
      · exact absurd h hneg
    · rename_i h
      simpa using fun h' => h (Or.inl h')
  rw [← mulI64_isSome, ← hrem, mulMod]
  constructor
  · intro h
    obtain ⟨c, hc⟩ := Option.isSome_iff_exists.1 h
    obtain ⟨d, hd, hdc⟩ := Option.bind_eq_some_iff.1 hc
    refine ⟨Option.isSome_iff_exists.2 ⟨d, hd⟩, (hrem 0).2 ((hrem d).1 ?_)⟩
    exact Option.isSome_iff_exists.2 ⟨c, hdc⟩
  · rintro ⟨hmul, hp⟩
    obtain ⟨d, hd⟩ := Option.isSome_iff_exists.1 hmul
    rw [hd, Option.bind_some]
    exact (hrem d).2 ((hrem 0).1 hp)

/-- The loop returns exactly when it is not entered, or the modulus is not zero and the square of the
unreduced base fits, or wraps around. -/
theorem gPowXModP_isSome {profile : Profile} {x p b : UInt32} (hp : p.toNat < 2 ^ 31) :
    (gPowXModP profile (i64OfU32 p) x b).isSome = true ↔
      x = 0 ∨ (p ≠ 0 ∧ (b.toNat < 3037000500 ∨ profile = .release)) := by
  rw [gPowXModP, Option.isSome_map, gPowXModPLoop_eq]
  rcases eq_or_ne x 0 with rfl | hx
  · exact ⟨fun _ => Or.inl rfl, fun _ => by rw [UInt32.toNat_zero, SquareMultiply.powLoop_zero]; rfl⟩
  · have hxn : x.toNat ≠ 0 := fun h => hx (UInt32.toNat_inj.1 h)
    constructor
    · intro h
      obtain ⟨r, hr⟩ := Option.isSome_iff_exists.1 h
      obtain ⟨m, hm⟩ := SquareMultiply.exists_square_of_powLoop hxn hr
      obtain ⟨hfits, hpos⟩ := mulMod_isSome.1 (Option.isSome_iff_exists.2 ⟨m, hm⟩)
      refine Or.inr ⟨hpos, hfits.imp_left fun hfits => (multipliable_iff b).1 ⟨?_, hfits.2⟩⟩
      rw [toInt_i64OfU32]
      exact Int.natCast_nonneg _
    · rintro (h | ⟨hpos, hb | rfl⟩)
      · exact absurd h hx
      · have hpn : p.toNat ≠ 0 := fun h => hpos (UInt32.toNat_inj.1 h)
        have hpi := toInt_i64OfU32 p
        obtain ⟨r, -, hr, -⟩ := (represents_mulMod profile (p := i64OfU32 p) (by omega)
          (by omega)).powLoop x.toNat one_multipliable ((multipliable_iff b).2 hb)
        exact Option.isSome_iff_exists.2 ⟨r, hr⟩
      · refine Option.isSome_iff_exists.2 (SquareMultiply.exists_powLoop (fun c d => ?_) _ _ _)
        exact Option.isSome_iff_exists.1 (mulMod_isSome.2 ⟨Or.inr rfl, hpos⟩)

/-! ### Keys -/

/-- The statement `stream[i] ^= stream[i].wrapping_add(key_part).wrapping_add(key_byte)`. -/
def mixByte (b keyPart keyByte : UInt8) : UInt8 := b ^^^ (b + keyPart + keyByte)

def transformKey (val : UInt64) (key : UInt32) (keyByte : UInt8) : UInt64 :=
  let stream := toLeBytes val
  readU64 #v[
    mixByte stream[0] (LOBYTE (LOWORD key)) keyByte,
    mixByte stream[1] (HIBYTE (LOWORD key)) keyByte,
    mixByte stream[2] (LOBYTE (HIWORD key)) keyByte,
    mixByte stream[3] (HIBYTE (HIWORD key)) keyByte,
    mixByte stream[4] (LOBYTE (LOWORD key)) keyByte,
    mixByte stream[5] (HIBYTE (LOWORD key)) keyByte,
    mixByte stream[6] (LOBYTE (HIWORD key)) keyByte,
    mixByte stream[7] (HIBYTE (HIWORD key)) keyByte]

/-- `decrypt_block` on the bytes of a word. -/
def BlowfishCompat.decryptU64 (blowfish : BlowfishCompat) (v : UInt64) : UInt64 :=
  readU64 (blowfish.decryptBlock (toLeBytes v))

/-- `encrypt_block` on the bytes of a word. -/
def BlowfishCompat.encryptU64 (blowfish : BlowfishCompat) (v : UInt64) : UInt64 :=
  readU64 (blowfish.encryptBlock (toLeBytes v))

@[simp] theorem BlowfishCompat.decryptU64_encryptU64 (blowfish : BlowfishCompat) (v : UInt64) :
    blowfish.decryptU64 (blowfish.encryptU64 v) = v := by
  rw [decryptU64, encryptU64, toLeBytes_readU64, decryptBlock_encryptBlock, readU64_toLeBytes]

/-- `BlowfishCompat::new_from_slice` takes every key of eight bytes, so the `expect` never fails. -/
def blowfishFromInt (newFromSlice : Block → BlowfishCompat) (key : UInt64) : BlowfishCompat :=
  newFromSlice (toLeBytes key)

/-- The key that the key message and the challenge are encrypted with. -/
def exchangeKey (valueA valueB valueK : UInt32) : UInt64 :=
  transformKey (toU64 valueA valueB) valueK (LOBYTE (LOWORD valueK) &&& 0x03)

/-- The content of the client's key message. -/
def expectedKey (valueA valueB valueK : UInt32) : UInt64 :=
  transformKey (toU64 valueB valueA) valueK (LOBYTE (LOWORD valueB) &&& 0x07)

/-- The content of the challenge. -/
def challengeKey (valueA valueB valueK : UInt32) : UInt64 :=
  transformKey (toU64 valueA valueB) valueK (LOBYTE (LOWORD valueA) &&& 0x07)

/-! ### The methods -/

/-- What the client is told. -/
structure InitializationData where
  seed : UInt64
  countSeed : UInt32
  crcSeed : UInt32
  handshakeSeed : UInt64
  additionalSeeds : Vector UInt32 3
  deriving DecidableEq

/-- The random words that `initialize` draws. -/
structure RandomDraws where
  seed : UInt64
  countSeed : UInt32
  crcSeed : UInt32
  handshakeSeed : UInt64
  x : UInt32
  g : UInt32
  p : UInt32
  deriving DecidableEq

namespace RandomDraws

def valueX (draws : RandomDraws) : UInt32 := draws.x &&& 0x7FFFFFFF

def valueG (draws : RandomDraws) : UInt32 := draws.g &&& 0x7FFFFFFF

def valueP (draws : RandomDraws) : UInt32 := draws.p &&& 0x7FFFFFFF

theorem valueP_lt (draws : RandomDraws) : draws.valueP.toNat < 2 ^ 31 := by
  rw [valueP, UInt32.toNat_and]
  exact Nat.lt_of_le_of_lt Nat.and_le_right (by decide)

theorem valueG_lt (draws : RandomDraws) : draws.valueG.toNat < 2 ^ 31 := by
  rw [valueG, UInt32.toNat_and]
  exact Nat.lt_of_le_of_lt Nat.and_le_right (by decide)

end RandomDraws

/-- The mask keeps the words of 31 bits. -/
theorem and_mask_of_lt {v : UInt32} (h : v.toNat < 2 ^ 31) : v &&& 0x7FFFFFFF = v := by
  apply UInt32.toNat_inj.1
  rw [UInt32.toNat_and]
  exact Nat.and_two_pow_sub_one_of_lt_two_pow h

namespace SilkroadSecurity

variable (profile : Profile) (newFromSlice : Block → BlowfishCompat)

def new : SilkroadSecurity := { state := .uninitialized }

/-- The method `initialize`.  A panic comes before the assignment to the state. -/
def initializeSecurity (draws : RandomDraws) (security : SilkroadSecurity) :
    Except (Failure SilkroadSecurityError) InitializationData × SilkroadSecurity :=
  match security.state with
  | .uninitialized =>
      match gPowXModP profile (i64OfU32 draws.valueP) draws.valueX draws.valueG with
      | none => (.error .panic, security)
      | some valueA =>
          (.ok { seed := draws.seed
                 countSeed := draws.countSeed
                 crcSeed := draws.crcSeed
                 handshakeSeed := draws.handshakeSeed
                 additionalSeeds := #v[draws.valueG, draws.valueP, valueA] },
           { state := .handshakeStarted draws.countSeed draws.crcSeed draws.handshakeSeed draws.valueX
                draws.valueP valueA })
  | _ => (.error (.error .alreadyInitialized), security)

def initializeWith (countSeed crcSeed : UInt32) (handshakeSeed : UInt64) (x p a : UInt32)
    (_security : SilkroadSecurity) : SilkroadSecurity :=
  { state := .handshakeStarted countSeed crcSeed handshakeSeed x p a }

def restart (_security : SilkroadSecurity) : SilkroadSecurity := { state := .uninitialized }

def startChallenge (valueB : UInt32) (clientKey : UInt64) (security : SilkroadSecurity) :
    Except (Failure SilkroadSecurityError) UInt64 × SilkroadSecurity :=
  match security.state with
  | .handshakeStarted countSeed crcSeed handshakeSeed valueX valueP valueA =>
      match gPowXModP profile (i64OfU32 valueP) valueX valueB with
      | none => (.error .panic, security)
      | some valueK =>
          let newKey := transformKey (toU64 valueA valueB) valueK (LOBYTE (LOWORD valueK) &&& 0x03)
          let blowfish := blowfishFromInt newFromSlice newKey
          let clientKey := blowfish.decryptU64 clientKey
          let newKey := transformKey (toU64 valueB valueA) valueK (LOBYTE (LOWORD valueB) &&& 0x07)
          if newKey ≠ clientKey then
            (.error (.error (.keyExchangeMismatch clientKey newKey)), security)
          else
            let newKey := transformKey (toU64 valueA valueB) valueK (LOBYTE (LOWORD valueK) &&& 0x03)
            let blowfish := blowfishFromInt newFromSlice newKey
            let challengeKey :=
              transformKey (toU64 valueA valueB) valueK (LOBYTE (LOWORD valueA) &&& 0x07)
            let encryptedChallenge := blowfish.encryptU64 challengeKey
            let handshakeSeed := transformKey handshakeSeed valueK 0x03
            (.ok encryptedChallenge,
             { state := .challenged (blowfishFromInt newFromSlice handshakeSeed) countSeed crcSeed })
  | _ => (.error (.error .securityUninitialized), security)

/-- One of the 32 rounds of `cycle_value`. -/
def cycleRound (val : UInt32) : UInt32 :=
  let taps : UInt32 := (val >>> (2 : UInt32)) ^^^ val
  let taps : UInt32 := (taps >>> (2 : UInt32)) ^^^ val
  let taps : UInt32 := (taps >>> (1 : UInt32)) ^^^ val
  let taps : UInt32 := (taps >>> (1 : UInt32)) ^^^ val
  let taps : UInt32 := (taps >>> (1 : UInt32)) ^^^ val
  let low : UInt32 := val &&& 1
  (taps &&& 1) ||| (((low <<< (31 : UInt32)) ||| (val >>> (1 : UInt32))) &&& 0xFFFFFFFE)

def cycleValue (seed : UInt32) : UInt32 := cycleRound^[32] seed

def generateCountSeed (seed : UInt32) : Vector UInt8 3 :=
  let round1 := cycleValue seed
  let round2 := cycleValue round1
  let round3 := cycleValue round2
  let round4 := cycleValue round3
  let byte1 := ((round4 &&& 0xFF) ^^^ (round3 &&& 0xFF)).toUInt8
  let byte2 := ((round1 &&& 0xFF) ^^^ (round2 &&& 0xFF)).toUInt8
  let byte1 := if byte1 = 0 then 1 else byte1
  let byte2 := if byte2 = 0 then 1 else byte2
  #v[byte1 ^^^ byte2, byte2, byte1]

def acceptChallenge (security : SilkroadSecurity) :
    Except (Failure SilkroadSecurityError) Unit × SilkroadSecurity :=
  match security.state with
  | .challenged blowfish countSeed crcSeed =>
      (.ok (), { state := .established blowfish (generateCountSeed countSeed) crcSeed })
  | _ => (.error (.error .initializationUnfinished), security)

/-! ### Single calls -/

variable {profile newFromSlice}

theorem initializeSecurity_new {draws : RandomDraws} {a : UInt32}
    (h : gPowXModP profile (i64OfU32 draws.valueP) draws.valueX draws.valueG = some a) :
    initializeSecurity profile draws new =
      (.ok { seed := draws.seed
             countSeed := draws.countSeed
             crcSeed := draws.crcSeed
             handshakeSeed := draws.handshakeSeed
             additionalSeeds := #v[draws.valueG, draws.valueP, a] },
       initializeWith draws.countSeed draws.crcSeed draws.handshakeSeed draws.valueX draws.valueP a
         new) := by
  rw [initializeSecurity, new]
  simp only [h]
  rfl

theorem initializeSecurity_new_of_none {draws : RandomDraws}
    (h : gPowXModP profile (i64OfU32 draws.valueP) draws.valueX draws.valueG = none) :
    initializeSecurity profile draws new = (.error .panic, new) := by
  rw [initializeSecurity, new]
  simp only [h]

/-- The key message of a client holds the content that is expected of it. -/
def KeyMatches (newFromSlice : Block → BlowfishCompat) (valueA valueB valueK : UInt32)
    (clientKey : UInt64) : Prop :=
  expectedKey valueA valueB valueK =
    (blowfishFromInt newFromSlice (exchangeKey valueA valueB valueK)).decryptU64 clientKey

/-- A started handshake goes on with a challenge for a matching key, and stays as it is otherwise. -/
theorem startChallenge_started (newFromSlice : Block → BlowfishCompat) (countSeed crcSeed : UInt32)
    (handshakeSeed : UInt64) (a : UInt32) (clientKey : UInt64) {x p b k : UInt32}
    (hk : gPowXModP profile (i64OfU32 p) x b = some k) :
    (KeyMatches newFromSlice a b k clientKey ∧
      startChallenge profile newFromSlice b clientKey
          { state := .handshakeStarted countSeed crcSeed handshakeSeed x p a } =
        (.ok ((blowfishFromInt newFromSlice (exchangeKey a b k)).encryptU64 (challengeKey a b k)),
         { state := .challenged
            (blowfishFromInt newFromSlice (transformKey handshakeSeed k 0x03)) countSeed crcSeed })) ∨
    (¬ KeyMatches newFromSlice a b k clientKey ∧
      startChallenge profile newFromSlice b clientKey
          { state := .handshakeStarted countSeed crcSeed handshakeSeed x p a } =
        (.error (.error (.keyExchangeMismatch
          ((blowfishFromInt newFromSlice (exchangeKey a b k)).decryptU64 clientKey) (expectedKey a b k))),
         { state := .handshakeStarted countSeed crcSeed handshakeSeed x p a })) := by
  by_cases hmatch : KeyMatches newFromSlice a b k clientKey
  · refine Or.inl ⟨hmatch, ?_⟩
    simp only [startChallenge, hk]
    exact if_neg (not_not.2 hmatch)
  · refine Or.inr ⟨hmatch, ?_⟩
    simp only [startChallenge, hk]
    exact if_pos hmatch

theorem startChallenge_started_of_none {countSeed crcSeed : UInt32} {handshakeSeed : UInt64}
    {x p a b : UInt32} {clientKey : UInt64} (hk : gPowXModP profile (i64OfU32 p) x b = none) :
    startChallenge profile newFromSlice b clientKey
        { state := .handshakeStarted countSeed crcSeed handshakeSeed x p a } =
      (.error .panic, { state := .handshakeStarted countSeed crcSeed handshakeSeed x p a }) := by
  simp only [startChallenge, hk]

end SilkroadSecurity

/-! ### An honest client -/

/-- A client, with what it was told and its own secret exponent. -/
structure HonestClient where
  init : InitializationData
  valueY : UInt32

namespace HonestClient

variable (newFromSlice : Block → BlowfishCompat) (client : HonestClient)

def valueG : UInt32 := client.init.additionalSeeds[0]

def valueP : UInt32 := client.init.additionalSeeds[1]

def valueA : UInt32 := client.init.additionalSeeds[2]

def valueB : UInt32 := UInt32.ofNat (client.valueG.toNat ^ client.valueY.toNat % client.valueP.toNat)

def valueK : UInt32 := UInt32.ofNat (client.valueA.toNat ^ client.valueY.toNat % client.valueP.toNat)

def blowfish : BlowfishCompat :=
  blowfishFromInt newFromSlice (exchangeKey client.valueA client.valueB client.valueK)

def keyMessage : UInt64 :=
  (client.blowfish newFromSlice).encryptU64 (expectedKey client.valueA client.valueB client.valueK)

def expectedChallenge : UInt64 := challengeKey client.valueA client.valueB client.valueK

def sessionKey : UInt64 := transformKey client.init.handshakeSeed client.valueK 0x03

end HonestClient

open SilkroadSecurity

/-- Both sides compute the same power. -/
theorem pow_mod_pow_mod (g x y p : ℕ) : (g ^ y % p) ^ x % p = (g ^ x % p) ^ y % p := by
  rw [← Nat.pow_mod, ← Nat.pow_mod, ← pow_mul, ← pow_mul, Nat.mul_comm]

/-- **An honest client and the server agree on the key.** -/
theorem honest_client_agrees (profile : Profile) (newFromSlice : Block → BlowfishCompat)
    (seed handshakeSeed : UInt64) (countSeed crcSeed g x p y : UInt32) (hp : 2 ≤ p.toNat)
    (hp' : p.toNat < 2 ^ 31) (hg : g.toNat < 2 ^ 31) (hx : x.toNat < 2 ^ 31) :
    ∃ init started challenge final,
      initializeSecurity profile { seed, countSeed, crcSeed, handshakeSeed, x, g, p } new =
        (.ok init, started) ∧
      started.state = .handshakeStarted countSeed crcSeed handshakeSeed x p
        (UInt32.ofNat (g.toNat ^ x.toNat % p.toNat)) ∧
      let client : HonestClient := { init, valueY := y }
      startChallenge profile newFromSlice client.valueB (client.keyMessage newFromSlice) started =
        (.ok challenge, final) ∧
      (client.blowfish newFromSlice).decryptU64 challenge = client.expectedChallenge ∧
      final.state =
        .challenged (blowfishFromInt newFromSlice client.sessionKey) countSeed crcSeed := by
  let draws : RandomDraws := { seed, countSeed, crcSeed, handshakeSeed, x, g, p }
  let a := UInt32.ofNat (g.toNat ^ x.toNat % p.toNat)
  let b := UInt32.ofNat (g.toNat ^ y.toNat % p.toNat)
  let k := UInt32.ofNat (a.toNat ^ y.toNat % p.toNat)
  have hvalueX : draws.valueX = x := and_mask_of_lt hx
  have hvalueG : draws.valueG = g := and_mask_of_lt hg
  have hvalueP : draws.valueP = p := and_mask_of_lt hp'
  have hmodlt : ∀ n, n % p.toNat < 2 ^ 31 := fun n => (Nat.mod_lt n (by omega)).trans hp'
  have htoNat : ∀ n, (UInt32.ofNat (n % p.toNat)).toNat = n % p.toNat := fun n =>
    UInt32.toNat_ofNat_of_lt' ((hmodlt n).trans (by decide))
  have ha : gPowXModP profile (i64OfU32 draws.valueP) draws.valueX draws.valueG = some a := by
    rw [hvalueX, hvalueG, hvalueP]
    exact gPowXModP_eq profile hp hp' (by omega)
  have hk : gPowXModP profile (i64OfU32 p) x b = some k := by
    have hb := hmodlt (g.toNat ^ y.toNat)
    rw [gPowXModP_eq profile hp hp' (by rw [htoNat]; omega)]
    simp only [k, a, b, htoNat]
    rw [pow_mod_pow_mod]
  have hinit := initializeSecurity_new ha
  rw [hvalueX, hvalueG, hvalueP] at hinit
  rcases startChallenge_started newFromSlice countSeed crcSeed handshakeSeed a
      ((blowfishFromInt newFromSlice (exchangeKey a b k)).encryptU64 (expectedKey a b k)) hk with
    ⟨-, hstart⟩ | ⟨hmismatch, -⟩
  · exact ⟨_, _, _, _, hinit, rfl, hstart, BlowfishCompat.decryptU64_encryptU64 _ _, rfl⟩
  · exact absurd (BlowfishCompat.decryptU64_encryptU64 _ _).symm hmismatch

/-- Blowfish with the key of the recorded exchange, as far as the key message and the challenge of that
exchange are concerned. -/
def recordedBlowfish : BlowfishCompat :=
  let keyMessage : Equiv.Perm Block := Equiv.swap #v[0x7f, 0x89, 0xda, 0xc3, 0xf7, 0x89, 0xd6, 0x45]
    #v[0x69, 0x02, 0xec, 0x3f, 0x16, 0xbb, 0x18, 0x64]
  let challenge : Equiv.Perm Block := Equiv.swap #v[0xf3, 0x95, 0xd2, 0x41, 0x73, 0x95, 0xde, 0xc7]
    #v[0xbe, 0x6f, 0x5e, 0xd4, 0x19, 0x79, 0x7d, 0x26]
  { encryptBlock := keyMessage.trans challenge
    decryptBlock := (keyMessage.trans challenge).symm
    decryptBlock_encryptBlock := (keyMessage.trans challenge).symm_apply_apply
    encryptBlock_decryptBlock := (keyMessage.trans challenge).apply_symm_apply }

def recordedDraws : RandomDraws :=
  { seed := 0, countSeed := 0, crcSeed := 0, handshakeSeed := 0x175e97ae769689bf
    x := 189993144, g := 0x20f50b95, p := 0x5213f40d }

/-- The powers of the recorded exchange. -/
theorem recorded_powers (profile : Profile) :
    gPowXModP profile (i64OfU32 0x5213f40d) 189993144 0x20f50b95 = some 0x24964436 ∧
      gPowXModP profile (i64OfU32 0x5213f40d) 189993144 0x4339047a = some 0x3ba88789 := by
  have hpower : ∀ b c : ℕ, (b : ZMod 0x5213f40d) ^ 189993144 = c → c < 0x5213f40d →
      b ^ 189993144 % 0x5213f40d = c := by
    intro b c h hc
    rw [← Nat.cast_pow, ZMod.natCast_eq_natCast_iff'] at h
    rw [h, Nat.mod_eq_of_lt hc]
  have ha := hpower 0x20f50b95 0x24964436 (by reduce_mod_char) (by decide)
  have hk := hpower 0x4339047a 0x3ba88789 (by reduce_mod_char) (by decide)
  have hx : (189993144 : UInt32).toNat = 189993144 := rfl
  have hp : (0x5213f40d : UInt32).toNat = 0x5213f40d := rfl
  have hg : (0x20f50b95 : UInt32).toNat = 0x20f50b95 := rfl
  have hb : (0x4339047a : UInt32).toNat = 0x4339047a := rfl
  constructor
  · rw [gPowXModP_eq profile (by decide) (by decide) (by decide), hx, hp, hg, ha]
    rfl
  · rw [gPowXModP_eq profile (by decide) (by decide) (by decide), hx, hp, hb, hk]
    rfl

/-- The recorded exchange, with the exponents of both sides. -/
theorem recorded_exchange_agrees :
    ∃ init started challenge final,
      initializeSecurity .debug recordedDraws new = (.ok init, started) ∧
      started.state = .handshakeStarted 0 0 0x175e97ae769689bf 189993144 0x5213f40d
        (UInt32.ofNat ((0x20f50b95 : UInt32).toNat ^ (189993144 : UInt32).toNat %
          (0x5213f40d : UInt32).toNat)) ∧
      let client : HonestClient := { init, valueY := 523780603 }
      startChallenge .debug (fun _ => recordedBlowfish) client.valueB
          (client.keyMessage fun _ => recordedBlowfish) started = (.ok challenge, final) ∧
      (client.blowfish fun _ => recordedBlowfish).decryptU64 challenge = client.expectedChallenge ∧
      final.state = .challenged (blowfishFromInt (fun _ => recordedBlowfish) client.sessionKey) 0 0 :=
  honest_client_agrees .debug (fun _ => recordedBlowfish) 0 0x175e97ae769689bf 0 0 0x20f50b95 189993144
    0x5213f40d 523780603 (by decide) (by decide) (by decide) (by decide)

/-- The recorded key message is answered with the recorded challenge. -/
example (profile : Profile) :
    (startChallenge profile (fun _ => recordedBlowfish) 0x4339047a 0x6418bb163fec0269
      { state := .handshakeStarted 0 0 0x175e97ae769689bf 189993144 0x5213f40d 0x24964436 }).1 =
      .ok 0x267d7919d45e6fbe := by
  rcases startChallenge_started (fun _ => recordedBlowfish) 0 0 0x175e97ae769689bf 0x24964436
      0x6418bb163fec0269 (recorded_powers profile).2 with ⟨-, h⟩ | ⟨h, -⟩
  · rw [h]
    exact congrArg Except.ok (by decide)
  · exact absurd (by rw [KeyMatches]; decide) h

/-! ### Overflow and division by zero -/

/-- Neither call of the exchange panics in a debug build, where an overflow is a panic. -/
def ExchangeReturns (newFromSlice : Block → BlowfishCompat) (draws : RandomDraws) (valueB : UInt32)
    (clientKey : UInt64) : Prop :=
  ∃ init started, initializeSecurity .debug draws new = (.ok init, started) ∧
    (startChallenge .debug newFromSlice valueB clientKey started).1 ≠ .error .panic

/-- A challenge panics exactly when its power does. -/
theorem startChallenge_panic_iff {profile : Profile} {newFromSlice : Block → BlowfishCompat}
    {countSeed crcSeed : UInt32} {handshakeSeed : UInt64} {x p a b : UInt32} {clientKey : UInt64} :
    (startChallenge profile newFromSlice b clientKey
      { state := .handshakeStarted countSeed crcSeed handshakeSeed x p a }).1 = .error .panic ↔
      gPowXModP profile (i64OfU32 p) x b = none := by
  constructor
  · intro h
    rcases hk : gPowXModP profile (i64OfU32 p) x b with _ | k
    · rfl
    · exfalso
      rcases startChallenge_started newFromSlice countSeed crcSeed handshakeSeed a clientKey hk with
        ⟨-, hstart⟩ | ⟨-, hstart⟩ <;>
      · rw [hstart] at h
        cases h
  · intro hk
    rw [startChallenge_started_of_none hk]

/-- The initialization returns unless it divides by zero. -/
theorem initializeSecurity_returns (profile : Profile) {draws : RandomDraws} :
    (∃ a, gPowXModP profile (i64OfU32 draws.valueP) draws.valueX draws.valueG = some a) ↔
      draws.valueX = 0 ∨ draws.valueP ≠ 0 := by
  have hg := draws.valueG_lt
  rw [← Option.isSome_iff_exists, gPowXModP_isSome draws.valueP_lt]
  exact ⟨fun h => h.imp_right And.left, fun h => h.imp_right fun hp => ⟨hp, Or.inl (by omega)⟩⟩

/-- **The exchange neither overflows nor divides by zero exactly when nothing is multiplied, or the
modulus is not zero and the square of the client's value fits.** -/
theorem exchangeReturns_iff (newFromSlice : Block → BlowfishCompat) (draws : RandomDraws)
    (valueB : UInt32) (clientKey : UInt64) :
    ExchangeReturns newFromSlice draws valueB clientKey ↔
      draws.valueX = 0 ∨ (draws.valueP ≠ 0 ∧ valueB.toNat < 3037000500) := by
  have hpower : gPowXModP .debug (i64OfU32 draws.valueP) draws.valueX valueB ≠ none ↔
      draws.valueX = 0 ∨ (draws.valueP ≠ 0 ∧ valueB.toNat < 3037000500) := by
    rw [← Option.isSome_iff_ne_none, gPowXModP_isSome draws.valueP_lt]
    simp
  rw [← hpower, ExchangeReturns]
  constructor
  · rintro ⟨init, started, hinit, hstart⟩
    rcases ha : gPowXModP .debug (i64OfU32 draws.valueP) draws.valueX draws.valueG with _ | a
    · rw [initializeSecurity_new_of_none ha] at hinit
      cases hinit
    · rw [initializeSecurity_new ha] at hinit
      cases hinit
      rwa [initializeWith, Ne, startChallenge_panic_iff] at hstart
  · intro h
    obtain ⟨a, ha⟩ := (initializeSecurity_returns .debug).2 ((hpower.1 h).imp_right And.left)
    refine ⟨_, _, initializeSecurity_new ha, ?_⟩
    rwa [initializeWith, Ne, startChallenge_panic_iff]

/-- The modulus zero is divided by in either profile, and the square of a large value overflows. -/
theorem exchange_panics :
    (initializeSecurity .release
        { seed := 0, countSeed := 0, crcSeed := 0, handshakeSeed := 0, x := 1, g := 2, p := 0 } new).1 =
      .error .panic ∧
    ¬ ExchangeReturns (fun _ => recordedBlowfish)
        { seed := 0, countSeed := 0, crcSeed := 0, handshakeSeed := 0, x := 1, g := 2, p := 7 }
        0xFFFFFFFF 0 := by
  constructor
  · rw [initializeSecurity_new_of_none]
    rw [← Option.not_isSome_iff_eq_none, gPowXModP_isSome (by decide)]
    decide
  · rintro ⟨init, started, hinit, hstart⟩
    rcases ha : gPowXModP .debug (i64OfU32 7) 1 2 with _ | a
    · exact absurd ha (Option.isSome_iff_ne_none.1 ((gPowXModP_isSome (by decide)).2
        (Or.inr ⟨by decide, Or.inl (by decide)⟩)))
    · rw [initializeSecurity_new ha] at hinit
      cases hinit
      refine hstart (startChallenge_panic_iff.2 ?_)
      rw [← Option.not_isSome_iff_eq_none, gPowXModP_isSome (by decide)]
      decide

end Skrillax
