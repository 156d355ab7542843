/-!
# White space

The characters with the Unicode property White_Space: the controls from tab to carriage
return, the space, next line, no-break space, ogham space mark, the spaces from en quad to hair
space, the line and paragraph separators, the narrow no-break space, the medium mathematical
space and the ideographic space.
-/

namespace KeyMidi.Text

/-- White space, as Unicode defines it. -/
def isWhite (c : Char) : Bool :=
  (0x9 ≤ c.toNat && c.toNat ≤ 0xD) || c.toNat == 0x20 || c.toNat == 0x85 || c.toNat == 0xA0 ||
    c.toNat == 0x1680 || (0x2000 ≤ c.toNat && c.toNat ≤ 0x200A) || c.toNat == 0x2028 ||
    c.toNat == 0x2029 || c.toNat == 0x202F || c.toNat == 0x205F || c.toNat == 0x3000

/-- Every character that core counts as white space is white space. -/
theorem isWhite_of_isWhitespace (c : Char) (h : c.isWhitespace = true) : isWhite c = true := by
  simp only [Char.isWhitespace, Bool.or_eq_true, decide_eq_true_eq] at h
  simp only [isWhite, Bool.or_eq_true, Bool.and_eq_true, decide_eq_true_eq, beq_iff_eq]
  rcases h with ((h | h) | h) | h <;> subst h <;> decide

end KeyMidi.Text
