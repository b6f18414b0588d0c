/-
**The security of a connection.**

The state of a connection's handshake and, once the handshake is complete, the encryption of messages
with Blowfish.  A message is padded with zero bytes to whole blocks and every block is encrypted by
itself.  Blowfish is not part of the source: a cipher is any permutation of the blocks together with
its inverse (`BlowfishCompat`).

Main definitions:

* `BlowfishCompat` — a block cipher with a fixed key;
* `SecurityState`, `SilkroadSecurity` — the states of the handshake;
* `SilkroadSecurity.encrypt`, `SilkroadSecurity.decrypt` — encryption of a message.

Main results:

* `mapBlocks_flatten` — the loop over the chunks of a message treats it block by block;
* `SilkroadSecurity.decrypt_encrypt` — **decrypting an encrypted message gives the message and its
  padding**;
* `SilkroadSecurity.encryption_is_inverse` — the same in both directions, with the errors;
* `SilkroadSecurity.decrypt_ok`, `SilkroadSecurity.decrypt_not_panic` — decryption keeps the length
  and never panics.
-/

import Skrillax.RustSlice

set_option relaxedAutoImplicit false
set_option autoImplicit false

namespace Skrillax

open Rust

/-! ### Blocks -/

abbrev Bytes := List UInt8

abbrev Block := Vector UInt8 8

/-- Blowfish with a fixed key: a permutation of the blocks and its inverse. -/
structure BlowfishCompat where
  encryptBlock : Block → Block
  decryptBlock : Block → Block
  decryptBlock_encryptBlock : ∀ b, decryptBlock (encryptBlock b) = b
  encryptBlock_decryptBlock : ∀ b, encryptBlock (decryptBlock b) = b

inductive SilkroadSecurityError where
  | securityUninitialized
  | alreadyInitialized
  | initializationUnfinished
  | invalidBlockLength (length : ℕ)
  | keyExchangeMismatch (received calculated : UInt64)
  deriving DecidableEq, Repr

abbrev BLOWFISH_BLOCK_SIZE : ℕ := 8

/-- The loop over `chunks_mut(BLOWFISH_BLOCK_SIZE)`.  `Block::from_mut_slice` panics on a chunk that
is too short. -/
def mapBlocks (f : Block → Block) : Bytes → Except (Failure SilkroadSecurityError) Bytes
  | [] => .ok []
  | b₀ :: b₁ :: b₂ :: b₃ :: b₄ :: b₅ :: b₆ :: b₇ :: rest =>
      (mapBlocks f rest).map ((f #v[b₀, b₁, b₂, b₃, b₄, b₅, b₆, b₇]).toList ++ ·)
  | _ => .error .panic

/-- The bytes of a list of blocks. -/
def flatten (blocks : List Block) : Bytes := blocks.flatMap Vector.toList

theorem flatten_cons (b : Block) (blocks : List Block) :
    flatten (b :: blocks) = b.toList ++ flatten blocks := by simp [flatten]

@[simp] theorem length_flatten (blocks : List Block) : (flatten blocks).length = 8 * blocks.length := by
  induction blocks with
  | nil => rfl
  | cons b blocks ih =>
      rw [flatten_cons, List.length_append, ih, Vector.length_toList, List.length_cons]
      omega

/-- A message of whole blocks is the bytes of some blocks. -/
theorem exists_flatten (data : Bytes) (h : data.length % 8 = 0) :
    ∃ blocks, data = flatten blocks := by
  fun_induction mapBlocks (fun b => b) data with
  | case1 => exact ⟨[], rfl⟩
  | case2 b₀ b₁ b₂ b₃ b₄ b₅ b₆ b₇ rest ih =>
      obtain ⟨blocks, hblocks⟩ := ih (by simp only [List.length_cons] at h; omega)
      exact ⟨#v[b₀, b₁, b₂, b₃, b₄, b₅, b₆, b₇] :: blocks, by rw [flatten_cons, ← hblocks]; rfl⟩
  | case3 data hne hlong =>
      -- a list that is neither empty nor has eight elements is shorter than a block
      exfalso
      rcases data with _ | ⟨b₀, _ | ⟨b₁, _ | ⟨b₂, _ | ⟨b₃, _ | ⟨b₄, _ | ⟨b₅, _ | ⟨b₆, _ | ⟨b₇, rest⟩⟩⟩⟩⟩⟩⟩⟩
      · exact hne rfl
      all_goals first
        | exact hlong _ _ _ _ _ _ _ _ _ rfl
        | simp at h

/-- The loop treats a message block by block. -/
theorem mapBlocks_flatten (f : Block → Block) (blocks : List Block) :
    mapBlocks f (flatten blocks) = .ok (flatten (blocks.map f)) := by
  induction blocks with
  | nil => rfl
  | cons b blocks ih =>
      have hb : ∃ b₀ b₁ b₂ b₃ b₄ b₅ b₆ b₇, b = #v[b₀, b₁, b₂, b₃, b₄, b₅, b₆, b₇] :=
        ⟨b[0], b[1], b[2], b[3], b[4], b[5], b[6], b[7], by
          ext i hi
          interval_cases i <;> rfl⟩
      obtain ⟨b₀, b₁, b₂, b₃, b₄, b₅, b₆, b₇, rfl⟩ := hb
      rw [flatten_cons, List.map_cons, flatten_cons]
      show mapBlocks f (b₀ :: b₁ :: b₂ :: b₃ :: b₄ :: b₅ :: b₆ :: b₇ :: flatten blocks) = _
      rw [mapBlocks, ih]
      rfl

/-! ### The states of the handshake -/

inductive SecurityState where
  | uninitialized
  | handshakeStarted (countSeed crcSeed : UInt32) (handshakeSeed : UInt64)
      (valueX valueP valueA : UInt32)
  | challenged (blowfish : BlowfishCompat) (countSeed crcSeed : UInt32)
  | established (blowfish : BlowfishCompat) (countSeed : Vector UInt8 3) (crcSeed : UInt32)

structure SilkroadSecurity where
  state : SecurityState

namespace SilkroadSecurity

/-- The handshake is complete. -/
def IsEstablished (security : SilkroadSecurity) : Prop :=
  ∃ blowfish countSeed crcSeed, security.state = .established blowfish countSeed crcSeed

/-- The nearest length that is a multiple of the block size. -/
def findEncryptedLength (givenLength : ℕ) : ℕ :=
  let alignedLength := givenLength % BLOWFISH_BLOCK_SIZE
  if alignedLength = 0 then givenLength else givenLength + (8 - alignedLength)

/-- What `decrypt_mut` and `encrypt_mut` have in common: the cipher is applied to every block. -/
def mapBlocksMut (op : BlowfishCompat → Block → Block) (security : SilkroadSecurity) (data : Bytes) :
    Except (Failure SilkroadSecurityError) Bytes :=
  match security.state with
  | .established blowfish _ _ =>
      if data.length % BLOWFISH_BLOCK_SIZE ≠ 0 then
        .error (.error (.invalidBlockLength data.length))
      else
        mapBlocks (op blowfish) data
  | _ => .error (.error .securityUninitialized)

def decryptMut : SilkroadSecurity → Bytes → Except (Failure SilkroadSecurityError) Bytes :=
  mapBlocksMut BlowfishCompat.decryptBlock

def encryptMut : SilkroadSecurity → Bytes → Except (Failure SilkroadSecurityError) Bytes :=
  mapBlocksMut BlowfishCompat.encryptBlock

/-- `decrypt` works on a copy of the bytes. -/
def decrypt (security : SilkroadSecurity) (data : Bytes) :
    Except (Failure SilkroadSecurityError) Bytes :=
  security.decryptMut data

/-- `encrypt` pads the bytes with zeros and calls `encrypt_mut`. -/
def encrypt (security : SilkroadSecurity) (data : Bytes) :
    Except (Failure SilkroadSecurityError) Bytes :=
  match security.state with
  | .established _ _ _ =>
      security.encryptMut
        (data ++ List.replicate (findEncryptedLength data.length - data.length) 0)
  | _ => .error (.error .securityUninitialized)

/-! ### Lengths -/

theorem findEncryptedLength_mod (n : ℕ) : findEncryptedLength n % 8 = 0 := by
  simp only [findEncryptedLength, BLOWFISH_BLOCK_SIZE]
  split <;> omega

theorem le_findEncryptedLength (n : ℕ) : n ≤ findEncryptedLength n := by
  simp only [findEncryptedLength]
  split <;> omega

theorem findEncryptedLength_lt (n : ℕ) : findEncryptedLength n < n + 8 := by
  simp only [findEncryptedLength, BLOWFISH_BLOCK_SIZE]
  split <;> omega

/-- **The length of a message with its padding is the least one of whole blocks.** -/
theorem findEncryptedLength_isLeast (n : ℕ) : IsLeast {m | n ≤ m ∧ 8 ∣ m} (findEncryptedLength n) := by
  refine ⟨⟨le_findEncryptedLength n, Nat.dvd_of_mod_eq_zero (findEncryptedLength_mod n)⟩, ?_⟩
  rintro m ⟨hle, hdvd⟩
  -- two multiples of eight that are less than eight apart
  have hmod := findEncryptedLength_mod n
  have hlt := findEncryptedLength_lt n
  omega

/-- The zero bytes that fill up the last block. -/
def padding (n : ℕ) : Bytes := List.replicate (findEncryptedLength n - n) 0

theorem length_append_padding (data : Bytes) :
    (data ++ padding data.length).length = findEncryptedLength data.length := by
  have := le_findEncryptedLength data.length
  simp only [padding, List.length_append, List.length_replicate]
  omega

/-! ### Encryption -/

theorem mapBlocksMut_flatten (op : BlowfishCompat → Block → Block) {security : SilkroadSecurity}
    {blowfish : BlowfishCompat} {countSeed : Vector UInt8 3} {crcSeed : UInt32}
    (hstate : security.state = .established blowfish countSeed crcSeed) (blocks : List Block) :
    mapBlocksMut op security (flatten blocks) = .ok (flatten (blocks.map (op blowfish))) := by
  simp only [mapBlocksMut, hstate]
  rw [if_neg (by simp), mapBlocks_flatten]

/-- Without a complete handshake, or on a broken block, there is an error; else every block is
mapped. -/
theorem mapBlocksMut_cases (op : BlowfishCompat → Block → Block) (security : SilkroadSecurity)
    (data : Bytes) :
    (∃ e, mapBlocksMut op security data = .error (.error e)) ∨
      ∃ blowfish blocks, data = flatten blocks ∧
        mapBlocksMut op security data = .ok (flatten (blocks.map (op blowfish))) := by
  cases hstate : security.state with
  | established blowfish countSeed crcSeed =>
      by_cases hmod : data.length % 8 = 0
      · obtain ⟨blocks, rfl⟩ := exists_flatten data hmod
        exact Or.inr ⟨blowfish, blocks, rfl, mapBlocksMut_flatten op hstate blocks⟩
      · refine Or.inl ⟨.invalidBlockLength data.length, ?_⟩
        simp only [mapBlocksMut, hstate]
        rw [if_pos hmod]
  | uninitialized => exact Or.inl ⟨.securityUninitialized, by simp only [mapBlocksMut, hstate]⟩
  | handshakeStarted => exact Or.inl ⟨.securityUninitialized, by simp only [mapBlocksMut, hstate]⟩
  | challenged => exact Or.inl ⟨.securityUninitialized, by simp only [mapBlocksMut, hstate]⟩

/-- What decryption returns has the length of its input, a number of whole blocks. -/
theorem decrypt_ok {security : SilkroadSecurity} {data out : Bytes}
    (h : security.decrypt data = .ok out) : out.length = data.length ∧ data.length % 8 = 0 := by
  rcases mapBlocksMut_cases BlowfishCompat.decryptBlock security data with
    ⟨e, he⟩ | ⟨blowfish, blocks, rfl, hout⟩
  · rw [decrypt, decryptMut, he] at h
    cases h
  · rw [decrypt, decryptMut, hout] at h
    cases h
    simp

theorem decrypt_not_panic (security : SilkroadSecurity) (data : Bytes) :
    security.decrypt data ≠ .error .panic := by
  intro h
  rcases mapBlocksMut_cases BlowfishCompat.decryptBlock security data with
    ⟨e, he⟩ | ⟨blowfish, blocks, rfl, hout⟩
  · rw [decrypt, decryptMut, he] at h
    cases h
  · rw [decrypt, decryptMut, hout] at h
    cases h

/-- **Decrypting an encrypted message gives the message and its padding.** -/
theorem decrypt_encrypt {security : SilkroadSecurity} (hestablished : security.IsEstablished)
    (data : Bytes) :
    ∃ out, security.encrypt data = .ok out ∧ out.length = findEncryptedLength data.length ∧
      security.decrypt out = .ok (data ++ padding data.length) := by
  obtain ⟨blowfish, countSeed, crcSeed, hstate⟩ := hestablished
  have hlength := length_append_padding data
  have hmod : (data ++ padding data.length).length % 8 = 0 := by
    rw [hlength]
    exact findEncryptedLength_mod data.length
  obtain ⟨blocks, hblocks⟩ := exists_flatten _ hmod
  refine ⟨flatten (blocks.map blowfish.encryptBlock), ?_, ?_, ?_⟩
  · have hencrypt := mapBlocksMut_flatten BlowfishCompat.encryptBlock hstate blocks
    rw [← hblocks] at hencrypt
    simp only [encrypt, hstate]
    exact hencrypt
  · rw [← hlength, hblocks]
    simp
  · have hinverse : blowfish.decryptBlock ∘ blowfish.encryptBlock = id :=
      funext blowfish.decryptBlock_encryptBlock
    rw [decrypt, decryptMut, mapBlocksMut_flatten _ hstate, List.map_map, hinverse, List.map_id,
      ← hblocks]

/-- **Encrypting a decrypted message of whole blocks gives the message back**: there is nothing to be padded. -/
theorem encrypt_decrypt {security : SilkroadSecurity} (hestablished : security.IsEstablished) {data : Bytes}
    (hmod : data.length % 8 = 0) :
    ∃ out, security.decrypt data = .ok out ∧ security.encrypt out = .ok data := by
  obtain ⟨blowfish, countSeed, crcSeed, hstate⟩ := hestablished
  obtain ⟨blocks, rfl⟩ := exists_flatten data hmod
  refine ⟨flatten (blocks.map blowfish.decryptBlock), mapBlocksMut_flatten _ hstate blocks, ?_⟩
  have haligned : findEncryptedLength (8 * blocks.length) = 8 * blocks.length :=
    if_pos (Nat.mul_mod_right 8 blocks.length)
  have hinverse : blowfish.encryptBlock ∘ blowfish.decryptBlock = id :=
    funext blowfish.encryptBlock_decryptBlock
  simp only [encrypt, hstate, encryptMut, length_flatten, List.length_map, haligned, Nat.sub_self,
    List.replicate_zero, List.append_nil]
  rw [mapBlocksMut_flatten _ hstate, List.map_map, hinverse, List.map_id]

theorem decrypt_broken {security : SilkroadSecurity} (hestablished : security.IsEstablished) {data : Bytes}
    (hmod : data.length % 8 ≠ 0) :
    security.decrypt data = .error (.error (.invalidBlockLength data.length)) := by
  obtain ⟨blowfish, countSeed, crcSeed, hstate⟩ := hestablished
  simp only [decrypt, decryptMut, mapBlocksMut, hstate]
  exact if_pos hmod

/-- **Decryption undoes encryption, up to the padding, and encryption undoes decryption.** -/
theorem encryption_is_inverse (blowfish : BlowfishCompat) (countSeed : Vector UInt8 3) (crcSeed : UInt32) :
    let security : SilkroadSecurity := ⟨.established blowfish countSeed crcSeed⟩
    (∀ n, IsLeast {m | n ≤ m ∧ 8 ∣ m} (findEncryptedLength n)) ∧
      (∀ data, ∃ out, security.encrypt data = .ok out ∧ out.length = findEncryptedLength data.length ∧
        security.decrypt out =
          .ok (data ++ List.replicate (findEncryptedLength data.length - data.length) 0)) ∧
      (∀ data : Bytes, 8 ∣ data.length →
        ∃ out, security.decrypt data = .ok out ∧ security.encrypt out = .ok data) ∧
      ∀ data : Bytes, ¬ 8 ∣ data.length →
        security.decrypt data = .error (.error (.invalidBlockLength data.length)) := by
  intro security
  have hestablished : security.IsEstablished := ⟨blowfish, countSeed, crcSeed, rfl⟩
  refine ⟨findEncryptedLength_isLeast, decrypt_encrypt hestablished, fun data hdvd => ?_,
    fun data hdvd => ?_⟩
  · exact encrypt_decrypt hestablished (Nat.mod_eq_zero_of_dvd hdvd)
  · exact decrypt_broken hestablished fun hmod => hdvd (Nat.dvd_of_mod_eq_zero hmod)

end SilkroadSecurity

end Skrillax
