import Gleaner.Text.Bytes
import Gleaner.Rule.Error
import Mathlib.Data.String.Basic

/-!
# Bytes and slices of texts

A text can be read as the bytes of its UTF-8 form.  A byte is there if its index is less than the
number of bytes; a slice is there if its bounds are in order and each of them lies between two
characters or at an end of the text.
-/

namespace Gleaner.Text

/-- Why a scan of a text ends without an answer. -/
inductive Stop (ε : Type) where
  /-- It asked for a byte or a slice that is not there. -/
  | outOfBounds
  /-- It refuses the text. -/
  | refused (error : ε)
  deriving DecidableEq

section

variable {ε α : Type}

/-- A result for which no byte and no slice was asked for. -/
def lift (result : Except ε α) : Except (Stop ε) α :=
  result.mapError .refused

/-- The byte at an index. -/
def byteAt (text : List Char) (index : Nat) : Except (Stop ε) UInt8 :=
  let bytes := (String.ofList text).toByteArray
  if inside : index < bytes.size then .ok bytes[index] else .error .outOfBounds

/-- The text between two offsets. -/
def slice (text : List Char) (start stop : Nat) : Except (Stop ε) (List Char) :=
  let whole := String.ofList text
  let first : String.Pos.Raw := ⟨start⟩
  let last : String.Pos.Raw := ⟨stop⟩
  if start ≤ stop ∧ first.isValid whole = true ∧ last.isValid whole = true then
    .ok (first.extract whole last).toList
  else .error .outOfBounds

/-- The text behind an offset. -/
def sliceFrom (text : List Char) (start : Nat) : Except (Stop ε) (List Char) :=
  slice text start (byteLength text)

/-- The text in front of an offset. -/
def sliceTo (text : List Char) (stop : Nat) : Except (Stop ε) (List Char) :=
  slice text 0 stop

end

section

variable {ε : Type} {text : List Char} {c : Char}

theorem bind_eq_ok_iff {ε α β : Type} {result : Except ε α} {next : α → Except ε β} {value : β} :
    (result >>= next) = .ok value ↔ ∃ first, result = .ok first ∧ next first = .ok value := by
  cases result <;> simp [bind, Except.bind]

theorem utf8Len_eq_byteLength (text : List Char) : String.utf8Len text = byteLength text := by
  induction text with
  | nil => rfl
  | cons c text ih => rw [String.utf8Len_cons, ih, byteLength, Nat.add_comm]

/-- Of two texts that a text starts with, the one with fewer bytes starts the other. -/
theorem prefix_of_byteLength_le {short long : List Char} (first : short <+: text)
    (second : long <+: text) (bytes : byteLength short ≤ byteLength long) : short <+: long := by
  rcases List.prefix_or_prefix_of_prefix first second with shorter | ⟨more, rfl⟩
  · exact shorter
  · cases more with
    | nil => simp
    | cons c more =>
        have positive := c.utf8Size_pos
        simp only [byteLength_append, byteLength] at bytes
        omega

/-! ## Bytes -/

private theorem toNat_of_mem_utf8EncodeChar {byte : UInt8}
    (member : byte ∈ String.utf8EncodeChar c) :
    c.toNat < 128 ∧ byte.toNat = c.toNat ∨ 128 ≤ c.toNat ∧ 128 ≤ byte.toNat := by
  have code : c.toNat = c.val.toNat := rfl
  have value (n : Nat) : (UInt8.ofNat n).toNat = n % 256 := UInt8.toNat_ofNat'
  rw [String.utf8EncodeChar] at member
  split_ifs at member with one two three
  all_goals simp only [List.mem_cons, List.not_mem_nil, or_false] at member
  · rw [member, value]
    omega
  · rcases member with rfl | rfl <;> rw [value] <;> omega
  · rcases member with rfl | rfl | rfl <;> rw [value] <;> omega
  · rcases member with rfl | rfl | rfl | rfl <;> rw [value] <;> omega

private theorem eq_toUInt8_iff_of_mem {byte : UInt8} (member : byte ∈ String.utf8EncodeChar c)
    {a : Char} (ascii : a.toNat < 128) : byte = a.toUInt8 ↔ c = a := by
  have own : a.toUInt8.toNat = a.toNat :=
    Nat.mod_eq_of_lt (show a.toNat < 256 by omega)
  have same : c = a ↔ c.toNat = a.toNat := ⟨congrArg Char.toNat, fun code => Char.toNat_inj.mp code⟩
  rw [← UInt8.toNat_inj, own, same]
  rcases toNat_of_mem_utf8EncodeChar member with ⟨-, code⟩ | ⟨high, beyond⟩ <;> omega

private theorem length_flatMap_utf8EncodeChar (text : List Char) :
    (text.flatMap String.utf8EncodeChar).length = byteLength text := by
  induction text with
  | nil => rfl
  | cons c text ih =>
      rw [List.flatMap_cons, List.length_append, String.length_utf8EncodeChar, ih, byteLength]

/-- The bytes behind a text are those of the characters that follow it. -/
theorem byteAt_append (before : List Char) (c : Char) (after : List Char) {k : Nat}
    (inside : k < c.utf8Size) :
    ∃ byte, (byteAt (before ++ c :: after) (byteLength before + k) : Except (Stop ε) UInt8) =
        .ok byte ∧
      ∀ a : Char, a.toNat < 128 → (byte = a.toUInt8 ↔ c = a) := by
  have bound : k < (String.utf8EncodeChar c).length := by
    rwa [String.length_utf8EncodeChar]
  refine ⟨(String.utf8EncodeChar c)[k], ?_, fun a => eq_toUInt8_iff_of_mem (List.getElem_mem bound)⟩
  have bytes : (String.ofList (before ++ c :: after)).toByteArray =
      ((before ++ c :: after).flatMap String.utf8EncodeChar).toByteArray :=
    String.toByteArray_ofList
  have split : (before ++ c :: after).flatMap String.utf8EncodeChar =
      before.flatMap String.utf8EncodeChar ++
        (String.utf8EncodeChar c ++ after.flatMap String.utf8EncodeChar) := by
    rw [List.flatMap_append, List.flatMap_cons]
  have lengths := length_flatMap_utf8EncodeChar before
  simp only [byteAt, bytes, List.size_toByteArray, List.getElem_toByteArray, split]
  rw [dif_pos (by simp only [List.length_append]; omega)]
  rw [List.getElem_append_right (by omega), List.getElem_append_left (by omega)]
  simp [lengths]

/-! ## Slices -/

/-- The places in a text are the ends of what it starts with. -/
theorem isValid_ofList_iff {offset : Nat} :
    String.Pos.Raw.isValid (String.ofList text) ⟨offset⟩ = true ↔
      ∃ before after, text = before ++ after ∧ byteLength before = offset := by
  rw [String.Pos.Raw.isValid_eq_true_iff, String.Pos.Raw.isValid_iff_exists_append]
  constructor
  · rintro ⟨front, back, split, place⟩
    refine ⟨front.toList, back.toList, ?_, ?_⟩
    · rw [← String.toList_append, ← split, String.toList_ofList]
    · have bytes := congrArg String.Pos.Raw.byteIdx place
      rw [← utf8Len_eq_byteLength, String.utf8Len_toList]
      exact bytes.symm
  · rintro ⟨before, after, rfl, rfl⟩
    refine ⟨String.ofList before, String.ofList after, String.ofList_append, ?_⟩
    rw [String.Pos.Raw.ext_iff, String.byteIdx_rawEndPos, String.utf8ByteSize_ofList,
      utf8Len_eq_byteLength]

/-- The slice between two places in a text is what stands between them. -/
theorem slice_append (before inside after : List Char) :
    (slice (before ++ inside ++ after) (byteLength before) (byteLength (before ++ inside)) :
      Except (Stop ε) (List Char)) = .ok inside := by
  have first : String.Pos.Raw.isValid (String.ofList (before ++ inside ++ after))
      ⟨byteLength before⟩ = true :=
    isValid_ofList_iff.mpr ⟨before, inside ++ after, List.append_assoc _ _ _, rfl⟩
  have last : String.Pos.Raw.isValid (String.ofList (before ++ inside ++ after))
      ⟨byteLength (before ++ inside)⟩ = true :=
    isValid_ofList_iff.mpr ⟨before ++ inside, after, rfl, rfl⟩
  have taken := String.extract_of_valid before inside after
  simp only [utf8Len_eq_byteLength, ← byteLength_append] at taken
  have ordered : byteLength before ≤ byteLength (before ++ inside) := by simp
  unfold slice
  dsimp only
  rw [if_pos ⟨ordered, first, last⟩, taken, String.toList_ofList]

/-- A slice is there exactly when its bounds are places in the text and in order. -/
theorem slice_eq_ok_iff {part : List Char} {start stop : Nat} :
    (slice text start stop : Except (Stop ε) (List Char)) = .ok part ↔
      ∃ before after, text = before ++ part ++ after ∧ byteLength before = start ∧
        byteLength (before ++ part) = stop := by
  constructor
  · intro taken
    have bounds := taken
    unfold slice at bounds
    dsimp only at bounds
    split at bounds
    · next valid =>
        obtain ⟨ordered, first, last⟩ := valid
        obtain ⟨before, rest, rfl, rfl⟩ := isValid_ofList_iff.mp first
        obtain ⟨longer, after, split, rfl⟩ := isValid_ofList_iff.mp last
        have inside := prefix_of_byteLength_le ⟨rest, rfl⟩ ⟨after, split.symm⟩ ordered
        obtain ⟨middle, rfl⟩ := inside
        rw [split, slice_append] at taken
        obtain rfl := Except.ok.inj taken
        exact ⟨before, after, split, rfl, rfl⟩
    · contradiction
  · rintro ⟨before, after, rfl, rfl, rfl⟩
    exact slice_append before part after

theorem sliceFrom_append (front back : List Char) :
    (sliceFrom (front ++ back) (byteLength front) : Except (Stop ε) (List Char)) = .ok back := by
  have taken : (slice (front ++ back ++ []) _ _ : Except (Stop ε) (List Char)) = .ok back :=
    slice_append front back []
  rwa [List.append_nil] at taken

theorem sliceTo_append (front back : List Char) :
    (sliceTo (front ++ back) (byteLength front) : Except (Stop ε) (List Char)) = .ok front :=
  slice_append [] front back

theorem byteLength_of_sliceTo {part : List Char} {stop : Nat}
    (taken : (sliceTo text stop : Except (Stop ε) (List Char)) = .ok part) :
    byteLength part = stop := by
  obtain ⟨before, after, -, start, rfl⟩ := slice_eq_ok_iff.mp taken
  rw [byteLength_append, start, Nat.zero_add]

end

end Gleaner.Text
