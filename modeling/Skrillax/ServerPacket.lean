/-
**Splitting a packet of the server into frames.**

A packet is sent as one frame, or, if it is massive, as a header and containers of at most `0xFFFF` bytes
each.  The length field of a frame has fifteen bits, so that a container of this size does not fit, and
the number of containers is rounded down, so that the end of a longer payload is not sent at all.  What is
left is that packets which fit one frame are sent as they are.

Main definitions:

* `ServerPacketKind`, `ServerPacket` — the packets of the server, with their serialized payload;
* `SilkroadFrame.createFor` — the frames of a packet;
* `SilkroadFrame.Transmits` — the frames come back when they are serialized and decoded again;
* `SplitsLosslessly` — nothing is lost by splitting a packet into frames.

Main results:

* `SilkroadFrame.drain_serialize` — a sequence of frames comes back as the peer gets it;
* `splitsLosslessly_iff` — **when nothing is lost**.
-/

import Skrillax.FrameDecoder

set_option relaxedAutoImplicit false
set_option autoImplicit false

namespace Skrillax

open Rust StreamDecoding

/-! ### Packets -/

inductive ServerPacketKind where
  | characterListResponse
  | characterJoinResponse
  | characterStatsMessage
  | characterEquipItem
  | characterUnequipItem
  | unknownPacket
  | unknownPacket2
  | celestialUpdate
  | lunarEventInfo
  | characterSpawnStart
  | characterSpawn
  | characterSpawnEnd
  | characterFinished
  | entityDespawn
  | entitySpawn
  | groupEntitySpawnStart
  | groupEntitySpawnData
  | groupEntitySpawnEnd
  | consignmentResponse
  | weatherUpdate
  | friendListInfo
  | gameNotification
  | playerMovementResponse
  | entityUpdateState
  | targetEntityResponse
  | unTargetEntityResponse
  | textCharacterInitialization
  | macroStatus
  | chatUpdate
  | chatMessageResponse
  | patchResponse
  | loginResponse
  | securityCodeResponse
  | gatewayNoticeResponse
  | pingServerResponse
  | shardListResponse
  | passcodeRequiredResponse
  | passcodeResponse
  | queueUpdate
  | identityInformation
  | securitySetup
  | authResponse
  | logoutResponse
  | logoutFinished
  | disconnect
  | entityBarsUpdate
  | inventoryOperationResult
  | gmResponse
  | openItemMallResponse
  | performActionResponse
  | performActionUpdate
  | characterPointsUpdate
  | gameGuideResponse
  | entityMovementInterrupt
  | playerPickupAnimation
  | changeSpeed
  | levelUpEffect
  | receiveExperience
  | levelUpMasteryResponse
  | learnSkillResponse
  | increaseStrResponse
  | increaseIntResponse
  deriving DecidableEq, Repr

def ServerPacketKind.opcode : ServerPacketKind → UInt16
  | .characterListResponse => 0xB007
  | .characterJoinResponse => 0xB001
  | .characterStatsMessage => 0x303D
  | .characterEquipItem => 0x3038
  | .characterUnequipItem => 0x3039
  | .unknownPacket => 0x3601
  | .unknownPacket2 => 0xB602
  | .celestialUpdate => 0x3020
  | .lunarEventInfo => 0x34f2
  | .characterSpawnStart => 0x34A5
  | .characterSpawn => 0x3013
  | .characterSpawnEnd => 0x34A6
  | .characterFinished => 0x3077
  | .entityDespawn => 0x3016
  | .entitySpawn => 0x3015
  | .groupEntitySpawnStart => 0x3017
  | .groupEntitySpawnData => 0x3019
  | .groupEntitySpawnEnd => 0x3018
  | .consignmentResponse => 0xB50E
  | .weatherUpdate => 0x3809
  | .friendListInfo => 0x3305
  | .gameNotification => 0x300C
  | .playerMovementResponse => 0xB021
  | .entityUpdateState => 0x30BF
  | .targetEntityResponse => 0xB045
  | .unTargetEntityResponse => 0xB04B
  | .textCharacterInitialization => 0x3535
  | .macroStatus => 0x3555
  | .chatUpdate => 0x3026
  | .chatMessageResponse => 0xB025
  | .patchResponse => 0xA100
  | .loginResponse => 0xA10A
  | .securityCodeResponse => 0xA117
  | .gatewayNoticeResponse => 0xA104
  | .pingServerResponse => 0xA107
  | .shardListResponse => 0xA101
  | .passcodeRequiredResponse => 0x2116
  | .passcodeResponse => 0xA117
  | .queueUpdate => 0x210E
  | .identityInformation => 0x2001
  | .securitySetup => 0x5000
  | .authResponse => 0xA103
  | .logoutResponse => 0xB005
  | .logoutFinished => 0x300A
  | .disconnect => 0x2212
  | .entityBarsUpdate => 0x3057
  | .inventoryOperationResult => 0xB034
  | .gmResponse => 0xB010
  | .openItemMallResponse => 0xB55D
  | .performActionResponse => 0xB074
  | .performActionUpdate => 0xB070
  | .characterPointsUpdate => 0x304E
  | .gameGuideResponse => 0xB0EA
  | .entityMovementInterrupt => 0xB023
  | .playerPickupAnimation => 0x3036
  | .changeSpeed => 0x30D0
  | .levelUpEffect => 0x3054
  | .receiveExperience => 0x3056
  | .levelUpMasteryResponse => 0xB0A2
  | .learnSkillResponse => 0xB0A1
  | .increaseStrResponse => 0xB050
  | .increaseIntResponse => 0xB051

/-- A packet of the server.  Its content is serialized when the frames are created, and only the bytes
matter here. -/
structure ServerPacket where
  kind : ServerPacketKind
  payload : Bytes

namespace ServerPacket

def intoSerialize (packet : ServerPacket) : UInt16 × Bytes := (packet.kind.opcode, packet.payload)

def isMassive (packet : ServerPacket) : Bool :=
  packet.kind = .patchResponse ∨ packet.kind = .gatewayNoticeResponse

def isEncrypted (packet : ServerPacket) : Bool := packet.kind = .loginResponse

/-- No packet has the opcode that marks massive packets. -/
theorem opcode_ne_massive (kind : ServerPacketKind) : kind.opcode ≠ MASSIVE_PACKET_OPCODE := by
  cases kind <;> decide

end ServerPacket

/-! ### Frames of a packet -/

namespace SilkroadFrame

/-- The containers of a massive packet: `split_to` takes the bytes of each off the front. -/
def containers : ℕ → Bytes → List SilkroadFrame
  | 0, _ => []
  | n + 1, bytes =>
      let size := min 0xFFFF bytes.length
      massiveContainer 0 0 (bytes.take size) :: containers n (bytes.drop size)

/-- `SilkroadFrame::create_for`. -/
def createFor (packet : ServerPacket) : List SilkroadFrame :=
  let (opcode, bytes) := packet.intoSerialize
  if packet.isMassive then
    let requiredPackets := max (bytes.length / 0xFFFF) 1
    massiveHeader 0 0 opcode (UInt16.ofNat requiredPackets) :: containers requiredPackets bytes
  else
    [.packet 0 0 opcode packet.isEncrypted bytes]

/-! ### Sending frames -/

/-- The bytes of a sequence of frames, as the encoder of the codec writes them. -/
def serializeAll (security : Option SilkroadSecurity) :
    List SilkroadFrame → Except (Failure FrameError) Bytes
  | [] => .ok []
  | frame :: frames => do
      let bytes ← frame.serialize security
      let rest ← serializeAll security frames
      return bytes ++ rest

/-- The frame fits the length field, is not taken for a massive one, and can be encrypted if need be. -/
structure Sendable (security : Option SilkroadSecurity) (frame : SilkroadFrame) : Prop where
  fits : frame.contentSize ≤ 0x7FFF
  unambiguous : ¬ frame.IsAmbiguous
  secured : frame.IsEncrypted → ∃ s, security = some s ∧ s.IsEstablished

/-- The frames come back when they are serialized and decoded again. -/
def Transmits (security : Option SilkroadSecurity) (frames : List SilkroadFrame) : Prop :=
  ∃ bytes, serializeAll security frames = .ok bytes ∧
    (SilkroadFrameDecoder.mk security).stream.drain bytes = ⟨frames, [], none⟩

/-- A sequence of frames comes back as the peer gets it. -/
theorem drain_serialize {security : Option SilkroadSecurity} {frames : List SilkroadFrame}
    (h : ∀ frame ∈ frames, Sendable security frame) :
    ∃ bytes, serializeAll security frames = .ok bytes ∧
      (SilkroadFrameDecoder.mk security).stream.drain bytes = ⟨frames.map padded, [], none⟩ := by
  induction frames with
  | nil => exact ⟨[], rfl, Decoder.drain_more (Decoder.decode_nil _)⟩
  | cons frame frames ih =>
      obtain ⟨rest, hrest, hdrain⟩ := ih fun f hf => h f (List.mem_cons_of_mem _ hf)
      obtain ⟨hfits, hopcode, hsecurity⟩ := h frame List.mem_cons_self
      obtain ⟨bytes, hbytes, -, hencodes⟩ := serialize_encodes hfits hopcode hsecurity
      refine ⟨bytes ++ rest, ?_, ?_⟩
      · rw [serializeAll, hbytes, hrest]
        rfl
      · have hdecode : (SilkroadFrameDecoder.mk security).stream.decode (bytes ++ rest) =
            .ok (some frame.padded, rest) := by
          refine SilkroadFrameDecoder.decode_item_iff.2 ⟨bytes.length, hencodes.parse rest, ?_⟩
          rw [List.drop_left]
        rw [Decoder.drain_item hdecode, hdrain]
        rfl

theorem padded_eq_self_iff {count crc : UInt8} {opcode : UInt16} {encrypted : Bool} {data : Bytes} :
    (packet count crc opcode encrypted data).padded = packet count crc opcode encrypted data ↔
      (encrypted = true → (data.length + 4) % 8 = 0) := by
  cases encrypted with
  | false => simp [padded]
  | true =>
      have hmod := SilkroadSecurity.findEncryptedLength_mod (data.length + 4)
      have hle := SilkroadSecurity.le_findEncryptedLength (data.length + 4)
      have hlt := SilkroadSecurity.findEncryptedLength_lt (data.length + 4)
      simp only [padded, SilkroadSecurity.padding, packet.injEq, true_and, List.append_right_eq_self,
        List.replicate_eq_nil_iff, forall_const]
      omega

end SilkroadFrame

/-! ### Splitting a packet -/

open SilkroadFrame

/-- Nothing is lost by splitting a packet into frames: the containers of a massive packet hold the
payload and the header counts them, every frame fits the length field, and the frames come back when they
are sent. -/
structure SplitsLosslessly (packet : ServerPacket) : Prop where
  massive : packet.isMassive = true → ∃ (count : UInt16) (inners : List Bytes),
    createFor packet =
        massiveHeader 0 0 packet.kind.opcode count :: inners.map (massiveContainer 0 0) ∧
      inners.flatten = packet.payload ∧ count.toNat = inners.length
  fits : ∀ frame ∈ createFor packet, frame.contentSize ≤ 0x7FFF
  parsed : ∀ security : Option SilkroadSecurity,
    (packet.isEncrypted = true → ∃ s, security = some s ∧ s.IsEstablished) →
      Transmits security (createFor packet)

theorem createFor_massive {packet : ServerPacket} (h : packet.isMassive = true) :
    createFor packet =
      massiveHeader 0 0 packet.kind.opcode (UInt16.ofNat (max (packet.payload.length / 0xFFFF) 1)) ::
        containers (max (packet.payload.length / 0xFFFF) 1) packet.payload := by
  simp [createFor, h, ServerPacket.intoSerialize]

theorem createFor_plain {packet : ServerPacket} (h : packet.isMassive = false) :
    createFor packet = [.packet 0 0 packet.kind.opcode packet.isEncrypted packet.payload] := by
  simp [createFor, h, ServerPacket.intoSerialize]

/-- A massive packet that fits one container. -/
theorem createFor_massive_small {packet : ServerPacket} (h : packet.isMassive = true)
    (hsize : packet.payload.length ≤ 0x7FFE) :
    createFor packet =
      [massiveHeader 0 0 packet.kind.opcode 1, massiveContainer 0 0 packet.payload] := by
  have hone : max (packet.payload.length / 0xFFFF) 1 = 1 := by omega
  have hmin : min 0xFFFF packet.payload.length = packet.payload.length := by omega
  rw [createFor_massive h, hone]
  simp [containers, hmin]

/-- The first container of a massive packet. -/
theorem mem_createFor_massive {packet : ServerPacket} (h : packet.isMassive = true) :
    massiveContainer 0 0 (packet.payload.take (min 0xFFFF packet.payload.length)) ∈
      createFor packet := by
  obtain ⟨n, hn⟩ : ∃ n, max (packet.payload.length / 0xFFFF) 1 = n + 1 :=
    ⟨max (packet.payload.length / 0xFFFF) 1 - 1, by omega⟩
  rw [createFor_massive h, hn]
  simp [containers]

theorem not_isEncrypted_of_isMassive {packet : ServerPacket} (h : packet.isMassive = true) :
    packet.isEncrypted = false := by
  simp only [ServerPacket.isMassive, decide_eq_true_eq] at h
  rcases h with h | h <;> simp [ServerPacket.isEncrypted, h]

/-- Frames that are sent as they are. -/
theorem transmits_of_padded {security : Option SilkroadSecurity} {frames : List SilkroadFrame}
    (h : ∀ frame ∈ frames, Sendable security frame) (hpadded : frames.map padded = frames) :
    Transmits security frames := by
  obtain ⟨bytes, hbytes, hdrain⟩ := drain_serialize h
  exact ⟨bytes, hbytes, by rw [hdrain, hpadded]⟩

theorem splitsLosslessly_massive {packet : ServerPacket} (h : packet.isMassive = true)
    (hsize : packet.payload.length ≤ 0x7FFE) : SplitsLosslessly packet := by
  have hframes := createFor_massive_small h hsize
  refine ⟨fun _ => ⟨1, [packet.payload], by rw [hframes]; rfl, by simp, rfl⟩, ?_, ?_⟩
  · rw [hframes]
    simp only [List.mem_cons, List.not_mem_nil, or_false, forall_eq_or_imp, forall_eq, contentSize]
    omega
  · intro security _
    rw [hframes]
    refine transmits_of_padded ?_ rfl
    intro frame hframe
    simp only [List.mem_cons, List.not_mem_nil, or_false] at hframe
    rcases hframe with rfl | rfl
    · exact ⟨by simp [contentSize], id, False.elim⟩
    · exact ⟨by simp only [contentSize]; omega, id, False.elim⟩

/-- The first container has to fit the length field. -/
theorem SplitsLosslessly.massive_size {packet : ServerPacket} (hsplit : SplitsLosslessly packet)
    (h : packet.isMassive = true) : packet.payload.length ≤ 0x7FFE := by
  have hfits := hsplit.fits _ (mem_createFor_massive h)
  simp only [contentSize, List.length_take] at hfits
  omega

theorem splitsLosslessly_plain {packet : ServerPacket} (h : packet.isMassive = false)
    (hsize : packet.payload.length ≤ 0x7FFF)
    (haligned : packet.isEncrypted = true → (packet.payload.length + 4) % 8 = 0) :
    SplitsLosslessly packet := by
  have hframes := createFor_plain h
  refine ⟨fun hmassive => absurd hmassive (by simp [h]), ?_, ?_⟩
  · rw [hframes]
    simpa [contentSize] using hsize
  · intro security hsecurity
    rw [hframes]
    refine transmits_of_padded ?_ ?_
    · intro frame hframe
      rw [List.mem_singleton] at hframe
      subst hframe
      exact ⟨hsize, ServerPacket.opcode_ne_massive packet.kind, hsecurity⟩
    · rw [List.map_singleton, padded_eq_self_iff.2 haligned]

/-- What comes back of an encrypted packet is padded, whatever the cipher. -/
theorem aligned_of_transmits {packet : ServerPacket} (h : packet.isMassive = false)
    (hsize : packet.payload.length ≤ 0x7FFF) (hencrypted : packet.isEncrypted = true)
    (hparsed : Transmits (some zeroKeySecurity) (createFor packet)) :
    (packet.payload.length + 4) % 8 = 0 := by
  rw [createFor_plain h] at hparsed
  obtain ⟨bytes, hbytes, hdrain⟩ := hparsed
  have hsendable : ∀ frame ∈ [SilkroadFrame.packet 0 0 packet.kind.opcode packet.isEncrypted
      packet.payload], Sendable (some zeroKeySecurity) frame := by
    intro frame hframe
    rw [List.mem_singleton] at hframe
    subst hframe
    exact ⟨hsize, ServerPacket.opcode_ne_massive packet.kind,
      fun _ => ⟨zeroKeySecurity, rfl, _, _, _, rfl⟩⟩
  obtain ⟨bytes', hbytes', hdrain'⟩ := drain_serialize hsendable
  rw [hbytes] at hbytes'
  cases hbytes'
  rw [hdrain, List.map_singleton] at hdrain'
  have hframe := List.singleton_inj.1 (congrArg Decoded.items hdrain')
  exact padded_eq_self_iff.1 hframe.symm hencrypted

/-- **When nothing is lost.**  A massive packet has to fit one container and any other packet one frame;
an encrypted packet comes back with its padding, and so has to fill its blocks. -/
theorem splitsLosslessly_iff (packet : ServerPacket) :
    SplitsLosslessly packet ↔
      packet.payload.length ≤ (if packet.isMassive then 0x7FFE else 0x7FFF) ∧
        (packet.isEncrypted = true → (packet.payload.length + 4) % 8 = 0) := by
  cases h : packet.isMassive with
  | true =>
      have hplain := not_isEncrypted_of_isMassive h
      simp only [if_true, hplain, Bool.false_eq_true, false_implies, and_true]
      exact ⟨fun hsplit => hsplit.massive_size h, splitsLosslessly_massive h⟩
  | false =>
      simp only [Bool.false_eq_true, if_false]
      refine ⟨fun hsplit => ?_, fun ⟨hsize, haligned⟩ => splitsLosslessly_plain h hsize haligned⟩
      have hsize : packet.payload.length ≤ 0x7FFF := by
        refine hsplit.fits (.packet 0 0 packet.kind.opcode packet.isEncrypted packet.payload) ?_
        rw [createFor_plain h]
        exact List.mem_singleton_self _
      refine ⟨hsize, fun hencrypted => aligned_of_transmits h hsize hencrypted ?_⟩
      exact hsplit.parsed _ fun _ => ⟨zeroKeySecurity, rfl, _, _, _, rfl⟩

/-- A notice of `0x10000` bytes: there is one container, it is too long for the length field, and the
last byte is in none. -/
theorem long_notice_not_lossless :
    ¬ SplitsLosslessly ⟨.gatewayNoticeResponse, List.replicate 0x10000 0⟩ := by
  intro h
  have hsize := h.massive_size rfl
  rw [List.length_replicate] at hsize
  omega

end Skrillax
