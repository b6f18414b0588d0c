/-
**Frames on the wire.**

A frame starts with a length field of two bytes: its low fifteen bits are the size of the content, its
high bit says whether what follows is encrypted.  After it come the opcode, the count byte, the
checksum byte and the content.  The opcode `0x600D` marks the two kinds of frames of a massive packet,
which are told apart by the first byte of their content.

Main definitions:

* `SilkroadFrame`, `FrameError` — the frames, and the errors of the codec;
* `SilkroadFrame.parse` — the first frame of a slice of bytes and the number of bytes it takes;
* `SilkroadFrame.contentSize`, `SilkroadFrame.packetSize`, `SilkroadFrame.serialize` — writing a
  frame;
* `SilkroadFrame.padded` — the frame as the peer gets it: encryption pads the data.

Main results:

* `SilkroadFrame.parse_eq` — parsing up to the point where the content is known;
* `SilkroadFrame.parse_serialize` — **parsing undoes serialization**, up to the padding;
* `SilkroadFrame.parse_returns_iff` — **when parsing does not panic**.
-/

import Skrillax.Security

set_option relaxedAutoImplicit false
set_option autoImplicit false

namespace Skrillax

open Rust

abbrev MASSIVE_PACKET_OPCODE : UInt16 := 0x600D

inductive SilkroadFrame where
  | packet (count crc : UInt8) (opcode : UInt16) (encrypted : Bool) (data : Bytes)
  | massiveHeader (count crc : UInt8) (containedOpcode containedCount : UInt16)
  | massiveContainer (count crc : UInt8) (inner : Bytes)
  deriving DecidableEq, Repr

inductive FrameError where
  | ioError
  | incomplete
  | missingSecurity
  | securityError (e : SilkroadSecurityError)
  deriving DecidableEq, Repr

namespace SilkroadFrame

def findNextEncryptedLength (length : ℕ) : ℕ := SilkroadSecurity.findEncryptedLength length

/-! ### Parsing -/

/-- The flag in the length field. -/
def encryptedFlag (length : UInt16) : Bool := length &&& 0x8000 != 0

/-- `total_size`: what follows the length field. -/
def totalSize (length : UInt16) : ℕ :=
  let contentSize := (length &&& 0x7FFF).toNat
  if encryptedFlag length then findNextEncryptedLength (contentSize + 4) else contentSize + 4

/-- The bytes after the length field, decrypted where the flag says so. -/
def decryptContent (security : Option SilkroadSecurity) (encrypted : Bool) (data : Bytes) :
    Except (Failure FrameError) Bytes :=
  if encrypted then
    match security with
    | none => .error (.error .missingSecurity)
    | some security => (security.decrypt data).mapError (Failure.map .securityError)
  else
    .ok data

/-- The frame in the decrypted bytes. -/
def parseContent (encrypted : Bool) (finalLength : ℕ) (data : Bytes) :
    Except (Failure FrameError) (ℕ × SilkroadFrame) := do
  let opcode ← readU16 (← slice data 0 2)
  let count ← index data 2
  let crc ← index data 3
  if opcode = MASSIVE_PACKET_OPCODE then
    let mode ← index data 4
    if mode = 1 then
      let innerAmount ← readU16 (← slice data 5 7)
      let innerOpcode ← readU16 (← slice data 7 9)
      return (finalLength, massiveHeader count crc innerOpcode innerAmount)
    else
      let inner ← sliceFrom data 5
      return (finalLength, massiveContainer count crc inner)
  else
    let inner ← sliceFrom data 4
    return (finalLength, packet count crc opcode encrypted inner)

/-- `SilkroadFrame::parse`. -/
def parse (data : Bytes) (security : Option SilkroadSecurity) :
    Except (Failure FrameError) (ℕ × SilkroadFrame) :=
  if data.length < 4 then .error (.error .incomplete)
  else do
    let length ← readU16 (← slice data 0 2)
    let data ← sliceFrom data 2
    if data.length < totalSize length then .error (.error .incomplete)
    else do
      let data ← slice data 0 (totalSize length)
      let data ← decryptContent security (encryptedFlag length) data
      parseContent (encryptedFlag length) (totalSize length + 2) data

/-! ### Serialization -/

def contentSize : SilkroadFrame → ℕ
  | packet _ _ _ _ data => data.length
  | massiveHeader .. => 6
  | massiveContainer _ _ inner => 1 + inner.length

def packetSize (frame : SilkroadFrame) : ℕ :=
  6 + match frame with
    | packet _ _ _ encrypted data =>
        if encrypted then findNextEncryptedLength (data.length + 4) - 4 else frame.contentSize
    | _ => frame.contentSize

def serialize (frame : SilkroadFrame) (security : Option SilkroadSecurity) :
    Except (Failure FrameError) Bytes :=
  match frame with
  | packet count crc opcode encrypted data =>
      if encrypted then
        match security with
        | none => .error (.error .missingSecurity)
        | some security => do
            let encrypted ← (security.encrypt (putU16 opcode ++ count :: crc :: data)).mapError
              (Failure.map .securityError)
            return putU16 (UInt16.ofNat (frame.contentSize ||| 0x8000)) ++ encrypted
      else
        .ok (putU16 (UInt16.ofNat frame.contentSize) ++ (putU16 opcode ++ count :: crc :: data))
  | massiveHeader count crc containedOpcode containedCount =>
      .ok (putU16 (UInt16.ofNat frame.contentSize) ++ (putU16 MASSIVE_PACKET_OPCODE ++
        count :: crc :: 1 :: (putU16 containedCount ++ (putU16 containedOpcode ++ [0]))))
  | massiveContainer count crc inner =>
      .ok (putU16 (UInt16.ofNat frame.contentSize) ++ (putU16 MASSIVE_PACKET_OPCODE ++
        count :: crc :: 0 :: inner))

/-- The frame as the peer gets it: the data of an encrypted packet comes with the padding. -/
def padded : SilkroadFrame → SilkroadFrame
  | packet count crc opcode true data =>
      packet count crc opcode true (data ++ SilkroadSecurity.padding (data.length + 4))
  | frame => frame

/-- The frame is a packet whose data is encrypted. -/
def IsEncrypted : SilkroadFrame → Prop
  | packet _ _ _ encrypted _ => encrypted = true
  | _ => False

/-- The frame is a packet with the opcode that marks massive packets. -/
def IsAmbiguous : SilkroadFrame → Prop
  | packet _ _ opcode _ _ => opcode = MASSIVE_PACKET_OPCODE
  | _ => False

/-! ### What parsing does -/

/-- The word of two bytes. -/
def word (low high : UInt8) : UInt16 := UInt16.ofNat (LittleEndian.decode [low, high])

theorem exists_putU16 (x : UInt16) : ∃ low high, putU16 x = [low, high] ∧ word low high = x := by
  refine ⟨_, _, rfl, ?_⟩
  have hdecode := decode_putU16 x
  rw [word]
  exact (congrArg UInt16.ofNat hdecode).trans UInt16.ofNat_toNat

/-- The word at the start of the bytes. -/
def firstWord (data : Bytes) : UInt16 := UInt16.ofNat (LittleEndian.decode (data.take 2))

/-- The bytes that belong to the first frame, after the length field. -/
def frameBytes (data : Bytes) : Bytes := (data.drop 2).take (totalSize (firstWord data))

/-- Bytes that are long enough for the header of a frame. -/
theorem exists_header {content : Bytes} (h : 4 ≤ content.length) :
    ∃ b₀ b₁ count crc tail, content = b₀ :: b₁ :: count :: crc :: tail := by
  rcases content with _ | ⟨b₀, _ | ⟨b₁, _ | ⟨count, _ | ⟨crc, tail⟩⟩⟩⟩
  all_goals first
    | exact ⟨_, _, _, _, _, rfl⟩
    | simp at h

/-- The frame in the bytes after its header, by the kind of the frame. -/
theorem parseContent_cons (encrypted : Bool) (n : ℕ) (b₀ b₁ count crc : UInt8) (tail : Bytes) :
    parseContent encrypted n (b₀ :: b₁ :: count :: crc :: tail) =
      if word b₀ b₁ = MASSIVE_PACKET_OPCODE then
        match tail with
        | [] => .error .panic
        | mode :: inner =>
            if mode = 1 then
              match inner with
              | a₀ :: a₁ :: o₀ :: o₁ :: _ =>
                  .ok (n, massiveHeader count crc (word o₀ o₁) (word a₀ a₁))
              | _ => .error .panic
            else .ok (n, massiveContainer count crc inner)
      else .ok (n, packet count crc (word b₀ b₁) encrypted tail) := by
  have hopcode : slice (b₀ :: b₁ :: count :: crc :: tail) 0 2 =
      (.ok [b₀, b₁] : Except (Failure FrameError) Bytes) := slice_ok (by simp)
  have hword : readU16 [b₀, b₁] = (.ok (word b₀ b₁) : Except (Failure FrameError) UInt16) := rfl
  have hcount : index (b₀ :: b₁ :: count :: crc :: tail) 2 =
      (.ok count : Except (Failure FrameError) UInt8) := index_ok (by simp)
  have hcrc : index (b₀ :: b₁ :: count :: crc :: tail) 3 =
      (.ok crc : Except (Failure FrameError) UInt8) := index_ok (by simp)
  have hinner : sliceFrom (b₀ :: b₁ :: count :: crc :: tail) 4 =
      (.ok tail : Except (Failure FrameError) Bytes) := sliceFrom_ok (by simp)
  simp only [parseContent, hopcode, hword, hcount, hcrc, hinner, ok_bind]
  split
  · rcases tail with _ | ⟨mode, inner⟩
    · rw [index_panic (by simp), error_bind]
    · rw [index_ok (by simp), ok_bind]
      show (if mode = 1 then _ else _) = (if mode = 1 then _ else _)
      split
      · rcases inner with _ | ⟨a₀, _ | ⟨a₁, _ | ⟨o₀, _ | ⟨o₁, rest⟩⟩⟩⟩
        · rfl
        · rfl
        · rfl
        · rfl
        · rw [slice_ok (by simp), ok_bind, slice_ok (by simp)]
          rfl
      · rw [sliceFrom_ok (by simp)]
        rfl
  · rfl

/-- Parsing up to the point where the content is known. -/
theorem parse_eq (data : Bytes) (security : Option SilkroadSecurity) :
    parse data security =
      if data.length < 4 ∨ data.length < totalSize (firstWord data) + 2 then
        .error (.error .incomplete)
      else
        (decryptContent security (encryptedFlag (firstWord data)) (frameBytes data)).bind
          (parseContent (encryptedFlag (firstWord data)) (totalSize (firstWord data) + 2)) := by
  unfold parse
  by_cases hshort : data.length < 4
  · rw [if_pos hshort, if_pos (Or.inl hshort)]
  · have hfield : (data.take 2).drop 0 = data.take 2 := rfl
    rw [if_neg hshort, slice_ok (by omega), sliceFrom_ok (by omega)]
    simp only [ok_bind]
    rw [readU16_ok (by simp; omega), List.drop_zero, List.take_take, Nat.min_self, ok_bind,
      ← firstWord, List.length_drop]
    by_cases hpartial : data.length < totalSize (firstWord data) + 2
    · rw [if_pos (by omega), if_pos (Or.inr hpartial)]
    · rw [if_neg (by omega), if_neg (by omega), slice_ok (by simp; omega), ok_bind, List.drop_zero]
      rfl

theorem le_totalSize (length : UInt16) : 4 ≤ totalSize length := by
  have := SilkroadSecurity.le_findEncryptedLength ((length &&& 0x7FFF).toNat + 4)
  simp only [totalSize, findNextEncryptedLength]
  split <;> omega

theorem decryptContent_some (security : SilkroadSecurity) (data : Bytes) :
    decryptContent (some security) true data =
      (security.decrypt data).mapError (Failure.map .securityError) := rfl

/-- Parsing bytes that start with a whole frame. -/
theorem parse_append {length : UInt16} {body content : Bytes} {security : Option SilkroadSecurity}
    (hbody : body.length = totalSize length)
    (hcontent : decryptContent security (encryptedFlag length) body = .ok content) (rest : Bytes) :
    parse (putU16 length ++ body ++ rest) security =
      parseContent (encryptedFlag length) (totalSize length + 2) content := by
  have hfield : firstWord (putU16 length ++ body ++ rest) = length := by
    rw [firstWord, List.append_assoc, List.take_left' (length_putU16 length), decode_putU16,
      UInt16.ofNat_toNat]
  have hbytes : frameBytes (putU16 length ++ body ++ rest) = body := by
    rw [frameBytes, hfield, List.append_assoc, List.drop_left' (length_putU16 length),
      List.take_left' hbody]
  have hsize := le_totalSize length
  rw [parse_eq, hfield, hbytes, if_neg (by simp; omega), hcontent]
  rfl

/-! ### Parsing undoes serialization -/

/-- The low fifteen bits of a length field hold the size, without the flag ... -/
theorem lengthBits_ofNat {n : ℕ} (h : n ≤ 0x7FFF) :
    UInt16.ofNat n &&& 0x8000 = 0 ∧ (UInt16.ofNat n &&& 0x7FFF).toNat = n := by
  have hmod : n % 2 ^ 16 = n := Nat.mod_eq_of_lt (by omega)
  constructor
  · apply UInt16.toNat_inj.1
    have hbit : n.testBit 15 = false := Nat.testBit_lt_two_pow (by omega)
    have h := Nat.and_two_pow n 15
    rw [UInt16.toNat_and, UInt16.toNat_ofNat', hmod]
    show n &&& 2 ^ 15 = 0
    rw [h, hbit]
    rfl
  · rw [UInt16.toNat_and, UInt16.toNat_ofNat', hmod]
    show n &&& (2 ^ 15 - 1) = n
    rw [Nat.and_two_pow_sub_one_eq_mod]
    exact Nat.mod_eq_of_lt (by omega)

/-- ... and with it. -/
theorem lengthBits_ofNat_or {n : ℕ} (h : n ≤ 0x7FFF) :
    UInt16.ofNat (n ||| 0x8000) &&& 0x8000 ≠ 0 ∧
      (UInt16.ofNat (n ||| 0x8000) &&& 0x7FFF).toNat = n := by
  have hor : n ||| 0x8000 = 2 ^ 15 + n := by
    have := Nat.two_pow_add_eq_or_of_lt (show n < 2 ^ 15 by omega) 1
    rw [Nat.mul_one] at this
    rw [Nat.or_comm, this]
  have hmod : (2 ^ 15 + n) % 2 ^ 16 = 2 ^ 15 + n := Nat.mod_eq_of_lt (by omega)
  rw [hor]
  constructor
  · intro hzero
    have hnat := congrArg UInt16.toNat hzero
    rw [UInt16.toNat_and, UInt16.toNat_ofNat', hmod] at hnat
    have hand : (2 ^ 15 + n) &&& 2 ^ 15 = 0 := hnat
    rw [Nat.and_two_pow] at hand
    have hbit : (2 ^ 15 + n).testBit 15 = true := by
      rw [Nat.testBit_two_pow_add_eq, Nat.testBit_lt_two_pow (by omega)]
      rfl
    rw [hbit] at hand
    simp at hand
  · rw [UInt16.toNat_and, UInt16.toNat_ofNat', hmod]
    show (2 ^ 15 + n) &&& (2 ^ 15 - 1) = n
    rw [Nat.and_two_pow_sub_one_eq_mod]
    omega

theorem totalSize_ofNat {n : ℕ} (h : n ≤ 0x7FFF) :
    encryptedFlag (UInt16.ofNat n) = false ∧ totalSize (UInt16.ofNat n) = n + 4 := by
  obtain ⟨hflag, hsize⟩ := lengthBits_ofNat h
  have hfalse : encryptedFlag (UInt16.ofNat n) = false := by simp [encryptedFlag, hflag]
  exact ⟨hfalse, by simp [totalSize, hfalse, hsize]⟩

theorem totalSize_ofNat_or {n : ℕ} (h : n ≤ 0x7FFF) :
    encryptedFlag (UInt16.ofNat (n ||| 0x8000)) = true ∧
      totalSize (UInt16.ofNat (n ||| 0x8000)) = findNextEncryptedLength (n + 4) := by
  obtain ⟨hflag, hsize⟩ := lengthBits_ofNat_or h
  have htrue : encryptedFlag (UInt16.ofNat (n ||| 0x8000)) = true := bne_iff_ne.2 hflag
  refine ⟨htrue, ?_⟩
  rw [totalSize, if_pos htrue, hsize]

/-- The bytes are those of a frame: a length field, as many bytes as it announces, and content that
parses to the frame. -/
def Encodes (security : Option SilkroadSecurity) (bytes : Bytes) (frame : SilkroadFrame) : Prop :=
  ∃ length body content, bytes = putU16 length ++ body ∧ body.length = totalSize length ∧
    decryptContent security (encryptedFlag length) body = .ok content ∧
    ∀ n, parseContent (encryptedFlag length) n content = .ok (n, frame)

theorem Encodes.parse {security : Option SilkroadSecurity} {bytes : Bytes} {frame : SilkroadFrame}
    (h : Encodes security bytes frame) (rest : Bytes) :
    SilkroadFrame.parse (bytes ++ rest) security = .ok (bytes.length, frame) := by
  obtain ⟨length, body, content, rfl, hbody, hcontent, hframe⟩ := h
  rw [parse_append hbody hcontent rest, hframe, List.length_append, length_putU16, hbody,
    Nat.add_comm]

theorem serialize_plain_packet (count crc : UInt8) {opcode : UInt16} {data : Bytes}
    (hsize : data.length ≤ 0x7FFF) (hopcode : opcode ≠ MASSIVE_PACKET_OPCODE)
    (security : Option SilkroadSecurity) :
    Encodes security (putU16 (UInt16.ofNat data.length) ++ (putU16 opcode ++ count :: crc :: data))
      (packet count crc opcode false data) := by
  obtain ⟨hflag, htotal⟩ := totalSize_ofNat hsize
  refine ⟨_, _, putU16 opcode ++ count :: crc :: data, rfl, ?_, ?_, ?_⟩
  · rw [htotal]
    simp
    omega
  · rw [hflag]
    rfl
  · intro n
    obtain ⟨low, high, hbytes, hword⟩ := exists_putU16 opcode
    rw [hbytes, hflag]
    show parseContent false n (low :: high :: count :: crc :: data) = _
    rw [parseContent_cons, hword, if_neg hopcode]

theorem serialize_massiveHeader (count crc : UInt8) (containedOpcode containedCount : UInt16)
    (security : Option SilkroadSecurity) :
    Encodes security
      (putU16 (UInt16.ofNat 6) ++ (putU16 MASSIVE_PACKET_OPCODE ++ count :: crc :: 1 ::
        (putU16 containedCount ++ (putU16 containedOpcode ++ [0]))))
      (massiveHeader count crc containedOpcode containedCount) := by
  obtain ⟨hflag, htotal⟩ := totalSize_ofNat (show 6 ≤ 0x7FFF by omega)
  refine ⟨_, _, _, rfl, ?_, by rw [hflag]; rfl, ?_⟩
  · rw [htotal]
    simp
  · intro n
    obtain ⟨low, high, hbytes, hword⟩ := exists_putU16 MASSIVE_PACKET_OPCODE
    obtain ⟨a₀, a₁, hcount, hamount⟩ := exists_putU16 containedCount
    obtain ⟨o₀, o₁, hopcode, hinner⟩ := exists_putU16 containedOpcode
    rw [hbytes, hcount, hopcode]
    show parseContent _ n (low :: high :: count :: crc :: 1 :: a₀ :: a₁ :: o₀ :: o₁ :: [0]) = _
    rw [parseContent_cons, hword, if_pos rfl, ← hamount, ← hinner]
    rfl

theorem serialize_massiveContainer (count crc : UInt8) {inner : Bytes}
    (hsize : 1 + inner.length ≤ 0x7FFF) (security : Option SilkroadSecurity) :
    Encodes security
      (putU16 (UInt16.ofNat (1 + inner.length)) ++ (putU16 MASSIVE_PACKET_OPCODE ++
        count :: crc :: 0 :: inner))
      (massiveContainer count crc inner) := by
  obtain ⟨hflag, htotal⟩ := totalSize_ofNat hsize
  refine ⟨_, _, _, rfl, ?_, by rw [hflag]; rfl, ?_⟩
  · rw [htotal]
    simp
    omega
  · intro n
    obtain ⟨low, high, hbytes, hword⟩ := exists_putU16 MASSIVE_PACKET_OPCODE
    rw [hbytes]
    show parseContent _ n (low :: high :: count :: crc :: 0 :: inner) = _
    rw [parseContent_cons, hword, if_pos rfl]
    rfl

theorem serialize_encrypted_packet (count crc : UInt8) {opcode : UInt16} {data : Bytes}
    (hsize : data.length ≤ 0x7FFF) (hopcode : opcode ≠ MASSIVE_PACKET_OPCODE)
    {security : SilkroadSecurity} (hestablished : security.IsEstablished) :
    ∃ encrypted, security.encrypt (putU16 opcode ++ count :: crc :: data) = .ok encrypted ∧
      encrypted.length = findNextEncryptedLength (data.length + 4) ∧
      Encodes (some security) (putU16 (UInt16.ofNat (data.length ||| 0x8000)) ++ encrypted)
        (packet count crc opcode true (data ++ SilkroadSecurity.padding (data.length + 4))) := by
  obtain ⟨hflag, htotal⟩ := totalSize_ofNat_or hsize
  obtain ⟨encrypted, hencrypt, hlength, hdecrypt⟩ :=
    SilkroadSecurity.decrypt_encrypt hestablished (putU16 opcode ++ count :: crc :: data)
  have hplain : (putU16 opcode ++ count :: crc :: data).length = data.length + 4 := by
    simp
    omega
  rw [hplain] at hlength hdecrypt
  refine ⟨encrypted, hencrypt, hlength, _, encrypted,
    putU16 opcode ++ count :: crc :: data ++ SilkroadSecurity.padding (data.length + 4), rfl, ?_, ?_, ?_⟩
  · rw [htotal]
    exact hlength
  · rw [hflag, decryptContent_some, hdecrypt]
    rfl
  · intro n
    obtain ⟨low, high, hbytes, hword⟩ := exists_putU16 opcode
    rw [hbytes, hflag]
    show parseContent true n (low :: high :: count :: crc :: (data ++ _)) = _
    rw [parseContent_cons, hword, if_neg hopcode]

/-- A frame whose size fits the length field is written so that it can be read back. -/
theorem serialize_encodes {frame : SilkroadFrame} {security : Option SilkroadSecurity}
    (hsize : frame.contentSize ≤ 0x7FFF) (hopcode : ¬ frame.IsAmbiguous)
    (hsecurity : frame.IsEncrypted → ∃ s, security = some s ∧ s.IsEstablished) :
    ∃ bytes, frame.serialize security = .ok bytes ∧ bytes.length = frame.packetSize ∧
      Encodes security bytes frame.padded := by
  cases frame with
  | packet count crc opcode encrypted data =>
      cases encrypted with
      | false =>
          refine ⟨_, rfl, ?_, serialize_plain_packet count crc hsize hopcode security⟩
          simp [packetSize, contentSize]
          omega
      | true =>
          obtain ⟨security, rfl, hestablished⟩ := hsecurity rfl
          obtain ⟨encrypted, hencrypt, hlength, hencodes⟩ :=
            serialize_encrypted_packet count crc hsize hopcode hestablished
          refine ⟨_, ?_, ?_, hencodes⟩
          · rw [serialize, if_pos rfl]
            simp only [hencrypt, Except.mapError, ok_bind]
            rfl
          · have := SilkroadSecurity.le_findEncryptedLength (data.length + 4)
            rw [List.length_append, length_putU16, hlength]
            simp only [packetSize, if_pos, findNextEncryptedLength]
            omega
  | massiveHeader count crc containedOpcode containedCount =>
      exact ⟨_, rfl, by simp [packetSize, contentSize],
        serialize_massiveHeader count crc containedOpcode containedCount security⟩
  | massiveContainer count crc inner =>
      refine ⟨_, rfl, ?_, serialize_massiveContainer count crc hsize security⟩
      simp [packetSize, contentSize]
      omega

/-- **Parsing undoes serialization.**  A frame whose content fits the length field is written with as
many bytes as `packetSize` says, and reading these bytes, whatever comes after them, gives the frame
back; the data of an encrypted packet has grown to whole blocks. -/
theorem parse_serialize (frame : SilkroadFrame) (security : Option SilkroadSecurity) (rest : Bytes)
    (hsize : frame.contentSize ≤ 0x7FFF) (hopcode : ¬ frame.IsAmbiguous)
    (hsecurity : frame.IsEncrypted → ∃ s, security = some s ∧ s.IsEstablished) :
    ∃ bytes, frame.serialize security = .ok bytes ∧ bytes.length = frame.packetSize ∧
      parse (bytes ++ rest) security = .ok (frame.packetSize, frame.padded) := by
  obtain ⟨bytes, hserialize, hlength, hencodes⟩ := serialize_encodes hsize hopcode hsecurity
  exact ⟨bytes, hserialize, hlength, by rw [hencodes.parse rest, hlength]⟩

/-- Blowfish with the key zero, as far as the block of zeros is concerned. -/
def zeroKeyBlowfish : BlowfishCompat :=
  let zeros : Block := #v[0, 0, 0, 0, 0, 0, 0, 0]
  let cipher : Block := #v[0x45, 0x97, 0xF9, 0x4E, 0x78, 0xDD, 0x98, 0x61]
  { encryptBlock := Equiv.swap zeros cipher
    decryptBlock := (Equiv.swap zeros cipher).symm
    decryptBlock_encryptBlock := (Equiv.swap zeros cipher).symm_apply_apply
    encryptBlock_decryptBlock := (Equiv.swap zeros cipher).apply_symm_apply }

def zeroKeySecurity : SilkroadSecurity := ⟨.established zeroKeyBlowfish #v[1, 1, 1] 0⟩

theorem parse_serialize_zeros :
    ∃ bytes, (packet 0 0 0 true []).serialize (some zeroKeySecurity) = .ok bytes ∧
      bytes.length = 10 ∧
      parse (bytes ++ [7]) (some zeroKeySecurity) = .ok (10, packet 0 0 0 true [0, 0, 0, 0]) :=
  parse_serialize (packet 0 0 0 true []) (some zeroKeySecurity) [7] (by decide)
    (fun h => absurd h (by decide : (0 : UInt16) ≠ MASSIVE_PACKET_OPCODE))
    fun _ => ⟨zeroKeySecurity, rfl, _, _, _, rfl⟩

/-! ### Panics -/

/-- The first frame is there as a whole, and `content` is what it holds. -/
def HasContent (data : Bytes) (security : Option SilkroadSecurity) (content : Bytes) : Prop :=
  4 ≤ data.length ∧ totalSize (firstWord data) + 2 ≤ data.length ∧
    decryptContent security (encryptedFlag (firstWord data)) (frameBytes data) = .ok content

/-- The content is that of a massive packet, and ends before the mode byte or, for a header, before
the two words after it. -/
def EndsEarly (content : Bytes) : Prop :=
  firstWord content = MASSIVE_PACKET_OPCODE ∧
    (content.length < 5 ∨ content[4]? = some 1 ∧ content.length < 9)

theorem decryptContent_ok {security : Option SilkroadSecurity} {encrypted : Bool}
    {data content : Bytes} (h : decryptContent security encrypted data = .ok content) :
    content.length = data.length := by
  cases encrypted with
  | false =>
      cases h
      rfl
  | true =>
      rcases security with _ | security
      · cases h
      · rw [decryptContent_some] at h
        cases hdecrypt : security.decrypt data with
        | error e =>
            rw [hdecrypt] at h
            cases h
        | ok out =>
            rw [hdecrypt] at h
            cases h
            exact (SilkroadSecurity.decrypt_ok hdecrypt).1

theorem decryptContent_not_panic (security : Option SilkroadSecurity) (encrypted : Bool)
    (data : Bytes) : decryptContent security encrypted data ≠ .error .panic := by
  intro h
  cases encrypted with
  | false => cases h
  | true =>
      rcases security with _ | security
      · cases h
      · rw [decryptContent_some] at h
        have hreturns := security.decrypt_not_panic data
        rcases hdecrypt : security.decrypt data with (e | _) | out
        · rw [hdecrypt] at h
          cases h
        · exact hreturns hdecrypt
        · rw [hdecrypt] at h
          cases h

theorem parseContent_panic_iff {content : Bytes} (h : 4 ≤ content.length) (encrypted : Bool) (n : ℕ) :
    parseContent encrypted n content = .error .panic ↔ EndsEarly content := by
  obtain ⟨b₀, b₁, count, crc, tail, rfl⟩ := exists_header h
  have hword : firstWord (b₀ :: b₁ :: count :: crc :: tail) = word b₀ b₁ := rfl
  rw [parseContent_cons, EndsEarly, hword]
  by_cases hmassive : word b₀ b₁ = MASSIVE_PACKET_OPCODE
  · rw [if_pos hmassive]
    rcases tail with _ | ⟨mode, inner⟩
    · simp [hmassive]
    · by_cases hmode : mode = 1
      · rcases inner with _ | ⟨a₀, _ | ⟨a₁, _ | ⟨o₀, _ | ⟨o₁, rest⟩⟩⟩⟩ <;> simp [hmassive, hmode]
      · simp [hmassive, hmode]
  · simp [hmassive]

/-- **When parsing returns.** -/
theorem parse_returns_iff (data : Bytes) (security : Option SilkroadSecurity) :
    ((∃ n frame, parse data security = .ok (n, frame)) ∨ ∃ e, parse data security = .error (.error e)) ↔
      ∀ content, HasContent data security content → ¬ EndsEarly content := by
  have hthree : ((∃ n frame, parse data security = .ok (n, frame)) ∨
      ∃ e, parse data security = .error (.error e)) ↔ parse data security ≠ .error .panic := by
    rcases parse data security with (e | _) | ⟨n, frame⟩ <;> simp
  rw [hthree, parse_eq]
  by_cases hpartial : data.length < 4 ∨ data.length < totalSize (firstWord data) + 2
  · rw [if_pos hpartial]
    refine ⟨fun _ content hcontent _ => ?_, fun _ h => by cases h⟩
    obtain ⟨hlength, htotal, -⟩ := hcontent
    omega
  · rw [if_neg hpartial]
    have hframe : (frameBytes data).length = totalSize (firstWord data) := by
      rw [frameBytes, List.length_take, List.length_drop]
      omega
    have hreturns := decryptContent_not_panic security (encryptedFlag (firstWord data))
      (frameBytes data)
    cases hdecrypt : decryptContent security (encryptedFlag (firstWord data)) (frameBytes data) with
    | error e =>
        refine ⟨fun _ content hcontent _ => ?_, fun _ h => ?_⟩
        · rw [hcontent.2.2] at hdecrypt
          cases hdecrypt
        · cases h
          exact hreturns hdecrypt
    | ok content =>
        have hlength := decryptContent_ok hdecrypt
        have hsize := le_totalSize (firstWord data)
        have hpanic := parseContent_panic_iff (show 4 ≤ content.length by omega)
          (encryptedFlag (firstWord data)) (totalSize (firstWord data) + 2)
        refine ⟨fun h content' hcontent => ?_, fun h hparse => ?_⟩
        · obtain ⟨-, -, hsame⟩ := hcontent
          rw [hdecrypt] at hsame
          cases hsame
          exact fun hearly => h (hpanic.2 hearly)
        · exact h content ⟨by omega, by omega, hdecrypt⟩ (hpanic.1 hparse)

/-- A frame of a massive packet without any content: there is no mode byte. -/
theorem empty_massive_packet_panics :
    ¬ ((∃ n frame, parse [0, 0, 0x0D, 0x60, 0, 0] none = .ok (n, frame)) ∨
      ∃ e, parse [0, 0, 0x0D, 0x60, 0, 0] none = .error (.error e)) := by
  have hpanic : parse [0, 0, 0x0D, 0x60, 0, 0] none = .error .panic := rfl
  rw [hpanic]
  simp

end SilkroadFrame

end Skrillax
