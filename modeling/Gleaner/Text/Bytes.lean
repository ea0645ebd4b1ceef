/-!
# Byte lengths

Offsets in messages count bytes of the UTF-8 form, while texts are lists of characters.
-/

namespace Gleaner.Text

/-- Number of bytes that the text takes in UTF-8. -/
def byteLength : List Char → Nat
  | [] => 0
  | c :: rest => c.utf8Size + byteLength rest

@[simp]
theorem byteLength_append (left right : List Char) :
    byteLength (left ++ right) = byteLength left + byteLength right := by
  induction left with
  | nil => simp [byteLength]
  | cons c rest induction => simp [byteLength, induction, Nat.add_assoc]

/-- Every character takes a byte at least, so a place in a text is known by the bytes before it. -/
theorem append_inj_of_byteLength {before left after right : List Char}
    (same : before ++ after = left ++ right) (bytes : byteLength before = byteLength left) :
    before = left ∧ after = right := by
  induction before generalizing left with
  | nil =>
      cases left with
      | nil => exact ⟨rfl, same⟩
      | cons c rest =>
          have positive := c.utf8Size_pos
          simp only [byteLength] at bytes
          omega
  | cons c rest induction =>
      cases left with
      | nil =>
          have positive := c.utf8Size_pos
          simp only [byteLength] at bytes
          omega
      | cons d tail =>
          obtain ⟨rfl, behind⟩ := List.cons.inj same
          have shorter : byteLength rest = byteLength tail := Nat.add_left_cancel bytes
          obtain ⟨rfl, rfl⟩ := induction behind shorter
          exact ⟨rfl, rfl⟩

end Gleaner.Text
