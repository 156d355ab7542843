import Mathlib
import KeyMidi.Proofs.Midi.Codec
/-!
# The two decoders agree

Received bytes are read twice over: `Packet.ofBytes?` takes a packet off the front of them, and
`Message.parse?` says what they mean. The first accepts a channel status followed by all the
data bytes its kind takes (`ofBytes?_isSome_iff`): one for a program change or channel pressure
(statuses `0xC0 … 0xDF`), two for every other kind, so a message is two or three bytes long
(`frameLength`). It keeps the status and the data bytes it needs, each cut to seven bits, and
drops what follows (`bytes_of_ofBytes?`).

Whatever it accepts means to `parse?` what the bytes did (`message_of_ofBytes?`): `parse?` looks
at no more than the first two data bytes, cuts them to seven bits itself, and for the two
one-byte kinds looks at none. The packet it accepts is one the wire can carry
(`wellFormed_of_ofBytes?`), so its own bytes read back as it. The converse fails: `parse?` reads
a note off from a status and one data byte, which `ofBytes?` refuses as truncated.
-/

namespace KeyMidi.Midi

/-- The length of the message a channel status starts, by the range of the status: two bytes for
a program change or channel pressure, three for the other kinds. -/
def frameLength (status : UInt8) : Nat := if 0xC0 ≤ status ∧ status < 0xE0 then 2 else 3

/-- The data length the decoder reads off the kind nibble is the range rule of `frameLength`. -/
theorem dataLength_add_one : ∀ s : UInt8, dataLength s + 1 = frameLength s := by
  decide +kernel

theorem dataLength_one_or_two (s : UInt8) : dataLength s = 1 ∨ dataLength s = 2 := by
  unfold dataLength; dsimp only; split <;> simp

/-- A status whose message is two bytes long has a kind that reads no data. -/
theorem kind_of_dataLength_one : ∀ s : UInt8, dataLength s = 1 →
    s &&& 0xF0 ≠ 0x80 ∧ s &&& 0xF0 ≠ 0x90 ∧ s &&& 0xF0 ≠ 0xB0 ∧ s &&& 0xF0 ≠ 0xE0 := by
  decide +kernel

theorem isChannelStatus_iff (s : UInt8) : isChannelStatus s = true ↔ 0x80 ≤ s ∧ s < 0xF0 := by
  simp [isChannelStatus]

namespace Packet

/-! ## What `ofBytes?` accepts -/

/-- Bytes that start with a channel status and carry its data bytes are accepted: as the status
and one data byte, or as the status and two, each cut to seven bits. -/
theorem ofBytes?_cons_cases {s : UInt8} {rest : List UInt8} (hs : isChannelStatus s = true)
    (hlen : dataLength s ≤ rest.length) :
    (∃ d1 r, dataLength s = 1 ∧ rest = d1 :: r ∧
      ofBytes? (s :: rest) = some ⟨s, d1 &&& 0x7F, none⟩) ∨
    (∃ d1 d2 r, dataLength s = 2 ∧ rest = d1 :: d2 :: r ∧
      ofBytes? (s :: rest) = some ⟨s, d1 &&& 0x7F, some (d2 &&& 0x7F)⟩) := by
  rcases dataLength_one_or_two s with h1 | h2
  · obtain ⟨d1, r, rfl⟩ := List.exists_cons_of_length_pos (by omega : 0 < rest.length)
    exact .inl ⟨d1, r, h1, rfl, by simp [ofBytes?, hs, h1]⟩
  · rcases rest with _ | ⟨d1, _ | ⟨d2, r⟩⟩
    all_goals simp only [List.length_cons, List.length_nil, h2] at hlen
    · omega
    · omega
    · exact .inr ⟨d1, d2, r, h2, rfl, by simp [ofBytes?, hs, h2]⟩

/-- Bytes too short for their status are refused. -/
theorem ofBytes?_of_short {s : UInt8} {rest : List UInt8} (h : rest.length < dataLength s) :
    ofBytes? (s :: rest) = none := by
  rcases dataLength_one_or_two s with h1 | h2
  · rw [h1] at h
    obtain rfl : rest = [] := List.eq_nil_of_length_eq_zero (by omega)
    simp [ofBytes?, h1]
  · rcases rest with _ | ⟨d1, _ | ⟨d2, r⟩⟩
    · simp [ofBytes?, h2]
    · simp [ofBytes?, h2]
    · simp only [List.length_cons, h2] at h; omega

/-- Bytes accepted by the decoder start with a channel status and carry all its data bytes. -/
theorem ofBytes?_cons_eq_some {s : UInt8} {rest : List UInt8} {e : Packet}
    (h : ofBytes? (s :: rest) = some e) :
    isChannelStatus s = true ∧ dataLength s ≤ rest.length := by
  by_cases hs : isChannelStatus s = true
  · by_cases hlen : dataLength s ≤ rest.length
    · exact ⟨hs, hlen⟩
    · rw [ofBytes?_of_short (by omega)] at h
      cases h
  · simp [ofBytes?, hs] at h

/-- **What the decoder accepts**: a channel status, then at least as many bytes as its message
is long. -/
theorem ofBytes?_isSome_iff (d : List UInt8) : (∃ e, ofBytes? d = some e) ↔
    ∃ s rest, d = s :: rest ∧ 0x80 ≤ s ∧ s < 0xF0 ∧ frameLength s ≤ d.length := by
  constructor
  · rintro ⟨e, h⟩
    match d, h with
    | s :: rest, h =>
      obtain ⟨hs, hlen⟩ := ofBytes?_cons_eq_some h
      obtain ⟨hlo, hhi⟩ := (isChannelStatus_iff s).mp hs
      have hfl := dataLength_add_one s
      refine ⟨s, rest, rfl, hlo, hhi, ?_⟩
      rw [List.length_cons]
      omega
  · rintro ⟨s, rest, rfl, hlo, hhi, hlen⟩
    have hs := (isChannelStatus_iff s).mpr ⟨hlo, hhi⟩
    have hfl := dataLength_add_one s
    rw [List.length_cons] at hlen
    have hdata : dataLength s ≤ rest.length := by omega
    rcases ofBytes?_cons_cases hs hdata with ⟨_, _, _, _, h⟩ | ⟨_, _, _, _, _, h⟩
    · exact ⟨_, h⟩
    · exact ⟨_, h⟩

/-- The packet the decoder accepts: the status, the data bytes it takes cut to seven bits, and
the second one only when the status takes two. -/
theorem ofBytes?_eq_some {s : UInt8} {rest : List UInt8} {e : Packet}
    (h : ofBytes? (s :: rest) = some e) :
    isChannelStatus s = true ∧
      ((∃ d1 r, dataLength s = 1 ∧ rest = d1 :: r ∧ e = ⟨s, d1 &&& 0x7F, none⟩) ∨
        (∃ d1 d2 r, dataLength s = 2 ∧ rest = d1 :: d2 :: r ∧
          e = ⟨s, d1 &&& 0x7F, some (d2 &&& 0x7F)⟩)) := by
  obtain ⟨hs, hlen⟩ := ofBytes?_cons_eq_some h
  refine ⟨hs, ?_⟩
  rcases ofBytes?_cons_cases hs hlen with ⟨d1, r, h1, hr, he⟩ | ⟨d1, d2, r, h2, hr, he⟩
  · exact .inl ⟨d1, r, h1, hr, Option.some.inj (h.symm.trans he)⟩
  · exact .inr ⟨d1, d2, r, h2, hr, Option.some.inj (h.symm.trans he)⟩

/-- A packet the decoder accepts is one the wire can carry. -/
theorem wellFormed_of_ofBytes? {d : List UInt8} {e : Packet} (h : ofBytes? d = some e) :
    e.WellFormed := by
  match d, h with
  | s :: rest, h =>
    obtain ⟨hs, ⟨d1, r, h1, -, rfl⟩ | ⟨d1, d2, r, h2, -, rfl⟩⟩ := ofBytes?_eq_some h
    · exact ⟨hs, UInt8.and_seven_le d1, h1⟩
    · exact ⟨hs, UInt8.and_seven_le d1, h2, UInt8.and_seven_le d2⟩

/-- The decoder keeps the status and the data bytes the status takes, cut to seven bits. -/
theorem bytes_of_ofBytes? {s : UInt8} {rest : List UInt8} {e : Packet}
    (h : ofBytes? (s :: rest) = some e) :
    e.status = s ∧ e.bytes = s :: (rest.take (frameLength s - 1)).map (· &&& 0x7F) := by
  rw [← dataLength_add_one, Nat.add_sub_cancel]
  obtain ⟨-, ⟨d1, r, h1, rfl, rfl⟩ | ⟨d1, d2, r, h2, rfl, rfl⟩⟩ := ofBytes?_eq_some h
  · simp [bytes, h1]
  · simp [bytes, h2]

/-! ## What `parse?` makes of it -/

/-- A program change or channel pressure means its status, whatever data follows. -/
theorem parse?_of_one {s : UInt8} (rest : List UInt8) (hs : isChannelStatus s = true)
    (h : dataLength s = 1) : Message.parse? (s :: rest) = some (.other s) := by
  obtain ⟨h8, h9, hB, hE⟩ := kind_of_dataLength_one s h
  simp [Message.parse?, hs, h8, h9, hB, hE]

/-- `parse?` reads at most two data bytes, and cuts them to seven bits itself. -/
theorem parse?_mask (s d1 d2 : UInt8) (rest : List UInt8) :
    Message.parse? (s :: d1 :: d2 :: rest) =
      Message.parse? [s, d1 &&& 0x7F, d2 &&& 0x7F] := by
  simp [Message.parse?]

/-- Every well-formed packet means something. -/
theorem message_isSome {e : Packet} (h : e.WellFormed) : e.message.isSome := by
  obtain ⟨s, d1, d2⟩ := e
  obtain ⟨hs, -, h2⟩ := h
  cases d2 with
  | none => simp [message, bytes, parse?_of_one [d1] hs h2]
  | some d =>
    simp only [message, bytes, Option.toList_some, Message.parse?, hs]
    split_ifs <;> simp

/-- A packet accepted from bytes means to `parse?` what the bytes do. -/
theorem message_of_ofBytes? {d : List UInt8} {e : Packet} (h : ofBytes? d = some e) :
    e.message = Message.parse? d := by
  match d, h with
  | s :: rest, h =>
    obtain ⟨hs, ⟨d1, r, h1, rfl, rfl⟩ | ⟨d1, d2, r, h2, rfl, rfl⟩⟩ := ofBytes?_eq_some h
    · simp only [message, bytes, Option.toList_none]
      rw [parse?_of_one _ hs h1, parse?_of_one _ hs h1]
    · rw [parse?_mask]
      simp [message, bytes, Message.parse?]

/-- **The two decoders agree.** Bytes are accepted as a packet exactly when they start with a
channel status and are at least as long as its message: two bytes for `0xC0 … 0xDF`, three for
the other statuses. The packet is the status and the data bytes it takes, cut to seven bits; it
means to `parse?` what the bytes do, it means something, and its own bytes are accepted as
itself. -/
theorem decoders_agree (d : List UInt8) :
    ((∃ e, ofBytes? d = some e) ↔
      ∃ s rest, d = s :: rest ∧ 0x80 ≤ s ∧ s < 0xF0 ∧ frameLength s ≤ d.length) ∧
    ∀ e, ofBytes? d = some e →
      (∃ rest, d = e.status :: rest ∧
        e.bytes = e.status :: (rest.take (frameLength e.status - 1)).map (· &&& 0x7F)) ∧
      e.message = Message.parse? d ∧ e.message.isSome ∧ ofBytes? e.bytes = some e := by
  refine ⟨ofBytes?_isSome_iff d, fun e h => ⟨?_, message_of_ofBytes? h, ?_, ?_⟩⟩
  · match d, h with
    | s :: rest, h =>
      obtain ⟨rfl, hb⟩ := bytes_of_ofBytes? h
      exact ⟨rest, rfl, hb⟩
  · exact message_isSome (wellFormed_of_ofBytes? h)
  · exact ofBytes?_bytes (wellFormed_of_ofBytes? h)

end Packet

end KeyMidi.Midi
