import KeyMidi.Proofs.Midi.Receiver
/-!
# The encoders and the decoders agree

Every packet an encoder builds is one the wire can carry (`Packet.WellFormed`): a channel
status, data bytes with the top bit clear, and a second data byte exactly when the status takes
one. Such a packet is accepted by the receiving side as itself (`Packet.ofBytes?_bytes`), and its
meaning is the message the encoder was asked for, cut to width:

* the channel keeps its low four bits and every data value its low seven, so a note on whose
  velocity is cut to 0 reads as a note off;
* a pitch bend position is sent as two seven-bit halves, low half first, and reads back as its
  low fourteen bits (`Packet.bendHalves_join`), so every position `0 … 16383` reads back as
  itself.

`Packet.encoders_read_back` gathers these facts for the four encoders.
-/

namespace KeyMidi.Midi

/-- Cutting a number to seven bits is taking it modulo 128. -/
theorem Nat.and_seven_bits (x : Nat) : x &&& 127 = x % 128 := Nat.and_two_pow_sub_one_eq_mod x 7

/-- Cutting a number to fourteen bits is taking it modulo 16384. -/
theorem Nat.and_fourteen_bits (x : Nat) : x &&& 16383 = x % 16384 :=
  Nat.and_two_pow_sub_one_eq_mod x 14

/-- A byte cut to seven bits has its top bit clear. -/
theorem UInt8.and_seven_le (x : UInt8) : x &&& 0x7F ≤ 0x7F := UInt8.and_le_right

namespace Packet

/-- A packet the wire can carry: a channel status, then data bytes with the top bit clear, the
second one present exactly when the status takes two. -/
def WellFormed (p : Packet) : Prop :=
  isChannelStatus p.status = true ∧ p.data1 ≤ 0x7F ∧
    match p.data2 with
    | none => dataLength p.status = 1
    | some d => dataLength p.status = 2 ∧ d ≤ 0x7F

/-- The receiving side accepts the bytes of a packet the wire can carry as that packet. -/
theorem ofBytes?_bytes {p : Packet} (h : p.WellFormed) : ofBytes? p.bytes = some p := by
  obtain ⟨status, d1, d2⟩ := p
  obtain ⟨hs, h1, h2⟩ := h
  cases d2 with
  | none =>
    simp only at h2
    simp [ofBytes?, bytes, hs, h2, UInt8.and_seven h1]
  | some d =>
    obtain ⟨hlen, hd⟩ := h2
    simp [ofBytes?, bytes, hs, hlen, UInt8.and_seven h1, UInt8.and_seven hd]

/-- A three-byte packet is well formed when its status is a channel status that takes two data
bytes and both data bytes have the top bit clear. -/
theorem wellFormed_three {s d1 d2 : UInt8} (hs : isChannelStatus s = true)
    (hkind : s &&& 0xF0 ≠ 0xC0 ∧ s &&& 0xF0 ≠ 0xD0) (h1 : d1 ≤ 0x7F) (h2 : d2 ≤ 0x7F) :
    (three s d1 d2).WellFormed := by
  have hlen : dataLength s = 2 := by simp [dataLength, hkind.1, hkind.2]
  exact ⟨hs, h1, hlen, h2⟩

theorem wellFormed_note (kind : NoteKind) (c n v : UInt8) : (note kind c n v).WellFormed := by
  obtain ⟨⟨off, offKind, -⟩, ⟨on, onKind, -⟩, -, -⟩ := Packet.status_fields c
  cases kind with
  | on => exact wellFormed_three on (by simp [onKind]) (UInt8.and_seven_le n) (UInt8.and_seven_le v)
  | off =>
    exact wellFormed_three off (by simp [offKind]) (UInt8.and_seven_le n) (UInt8.and_seven_le v)

theorem wellFormed_controlChange (c k v : UInt8) : (controlChange c k v).WellFormed := by
  obtain ⟨-, -, ⟨hs, hkind, -⟩, -⟩ := Packet.status_fields c
  exact wellFormed_three hs (by simp [hkind]) (UInt8.and_seven_le k) (UInt8.and_seven_le v)

/-- Each half of a 14-bit split is a seven-bit value. -/
theorem UInt16.toUInt8_and_seven_le (x : UInt16) : (x &&& 0x7F).toUInt8 ≤ 0x7F := by
  apply UInt8.le_iff_toNat_le.mpr
  simp only [UInt16.toNat_toUInt8, UInt16.toNat_and, UInt16.reduceToNat, UInt8.reduceToNat,
    Nat.and_seven_bits]
  omega

theorem wellFormed_pitchBendTo (c : UInt8) (b : UInt16) : (pitchBendTo c b).WellFormed := by
  obtain ⟨-, -, -, hs, hkind⟩ := Packet.status_fields c
  exact wellFormed_three hs (by simp [hkind]) (UInt16.toUInt8_and_seven_le b)
    (UInt16.toUInt8_and_seven_le _)

/-- The two seven-bit halves of a bend position, each read back with its top bit cleared, join
into the position's low fourteen bits. -/
theorem bendHalves_join (b : UInt16) :
    ((((b >>> 7) &&& 0x7F).toUInt8 &&& 0x7F).toUInt16 <<< 7) |||
      ((b &&& 0x7F).toUInt8 &&& 0x7F).toUInt16 = b &&& 0x3FFF := by
  apply UInt16.toNat_inj.mp
  simp only [UInt16.toNat_or, UInt16.toNat_shiftLeft, UInt8.toNat_toUInt16, UInt8.toNat_and,
    UInt16.toNat_toUInt8, UInt16.toNat_and, UInt16.toNat_shiftRight]
  have hb := b.toNat_lt
  generalize b.toNat = n at *
  simp only [UInt16.reduceToNat, UInt8.reduceToNat, Nat.reduceMod, Nat.and_seven_bits,
    Nat.and_fourteen_bits, Nat.shiftRight_eq_div_pow, Nat.shiftLeft_eq]
  -- the high half lands above the low one, so joining them is adding them
  have high : n / 2 ^ 7 % 128 % 2 ^ 8 % 128 * 2 ^ 7 % 2 ^ 16 = 2 ^ 7 * (n / 128 % 128) := by
    omega
  have low : n % 128 % 2 ^ 8 % 128 = n % 128 := by omega
  rw [high, low, ← Nat.two_pow_add_eq_or_of_lt (by omega)]
  omega

/-- A position that fits in fourteen bits is its own low fourteen bits. -/
theorem UInt16.and_fourteen_of_lt {b : UInt16} (h : b.toNat < 16384) : b &&& 0x3FFF = b := by
  apply UInt16.toNat_inj.mp
  simp only [UInt16.toNat_and, UInt16.reduceToNat, Nat.and_fourteen_bits]
  omega

/-- A pitch bend status keeps the low four bits of its channel. -/
theorem status_channel_pitchBend : ∀ c : UInt8, (0xE0 ||| (c &&& 0x0F)) &&& 0x0F = c &&& 0x0F := by
  decide +kernel

/-- A pitch bend reads back as the low fourteen bits of its position. -/
theorem message_pitchBendTo (c : UInt8) (b : UInt16) :
    (pitchBendTo c b).message = some (.pitchBend (c &&& 0x0F) (b &&& 0x3FFF)) := by
  obtain ⟨-, -, -, hs, hkind⟩ := Packet.status_fields c
  simp only [pitchBendTo, three, message, bytes, Message.parse?, hs, hkind,
    status_channel_pitchBend]
  rw [← bendHalves_join]
  rfl

theorem channel_note (kind : NoteKind) (c n v : UInt8) : (note kind c n v).channel = c &&& 0x0F := by
  obtain ⟨⟨-, -, off⟩, ⟨-, -, on⟩, -, -⟩ := Packet.status_fields c
  cases kind <;> assumption

theorem channel_pitchBendTo (c : UInt8) (b : UInt16) : (pitchBendTo c b).channel = c &&& 0x0F :=
  status_channel_pitchBend c

/-- **The encoders read back.** A packet built by an encoder means what the encoder was asked
for, cut to width: the channel to four bits, the data values to seven, a bend position to
fourteen (so a position `0 … 16383` reads back as itself), and a note on whose velocity is cut
to 0 is a note off. The receiving side accepts the packet's bytes as the packet, and its channel
is the one it was given, cut to four bits. -/
theorem encoders_read_back :
    (∀ c n v : UInt8, (noteOn c n v).message =
      some (if v &&& 0x7F = 0 then .noteOff (c &&& 0x0F) (n &&& 0x7F)
        else .noteOn (c &&& 0x0F) (n &&& 0x7F) (v &&& 0x7F))) ∧
    (∀ c n : UInt8, (noteOff c n).message = some (.noteOff (c &&& 0x0F) (n &&& 0x7F))) ∧
    (∀ c k v : UInt8, (controlChange c k v).message =
      some (.controlChange (c &&& 0x0F) (k &&& 0x7F) (v &&& 0x7F))) ∧
    (∀ (c : UInt8) (x : Float), (pitchBend c x).message =
      some (.pitchBend (c &&& 0x0F) (bendPosition x &&& 0x3FFF))) ∧
    (∀ (c : UInt8) (b : UInt16), b.toNat < 16384 →
      (pitchBendTo c b).message = some (.pitchBend (c &&& 0x0F) b)) ∧
    (∀ (kind : NoteKind) (c n v : UInt8), ofBytes? (note kind c n v).bytes = some (note kind c n v) ∧
      (note kind c n v).channel = c &&& 0x0F) ∧
    (∀ c k v : UInt8, ofBytes? (controlChange c k v).bytes = some (controlChange c k v) ∧
      (controlChange c k v).channel = c &&& 0x0F) ∧
    (∀ (c : UInt8) (x : Float), ofBytes? (pitchBend c x).bytes = some (pitchBend c x) ∧
      (pitchBend c x).channel = c &&& 0x0F) := by
  refine ⟨message_noteOn, message_noteOff, message_controlChange,
    fun c x => message_pitchBendTo c _, ?_, ?_, ?_, ?_⟩
  · intro c b hb
    rw [message_pitchBendTo, UInt16.and_fourteen_of_lt hb]
  · intro kind c n v
    exact ⟨ofBytes?_bytes (wellFormed_note kind c n v), channel_note kind c n v⟩
  · intro c k v
    exact ⟨ofBytes?_bytes (wellFormed_controlChange c k v),
      (Packet.status_fields c).2.2.1.2.2⟩
  · intro c x
    exact ⟨ofBytes?_bytes (wellFormed_pitchBendTo c _), channel_pitchBendTo c _⟩

/-- The centre position on channel 3 reads back as itself. -/
theorem encoders_read_back_centre :
    (8192 : UInt16).toNat < 16384 ∧
      (pitchBendTo 2 8192).message = some (.pitchBend (2 &&& 0x0F) 8192) :=
  ⟨by decide, encoders_read_back.2.2.2.2.1 2 8192 (by decide)⟩

end Packet

end KeyMidi.Midi
