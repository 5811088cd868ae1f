/-!
# Byte strings

Fragments, notifications, blobs and serialized documents are all lists of
bytes. Text enters this world through its UTF-8 form, character by character,
so that the form of a concatenation is the concatenation of the forms.
-/

namespace CommandLink

abbrev Bytes := List UInt8

namespace Bytes

/-- The UTF-8 form of a text. -/
def ofText (text : String) : Bytes := text.toList.flatMap String.utf8EncodeChar

/-- The text whose UTF-8 form these bytes are, if there is one. -/
def text? (bytes : Bytes) : Option String := String.fromUTF8? ⟨bytes.toArray⟩

/-- The length of the UTF-8 character these bytes begin with. -/
def leadingCharacter? (bytes : Bytes) : Option Nat :=
  [1, 2, 3, 4].find? fun length =>
    length ≤ bytes.length && (text? (bytes.take length)).isSome

/-- The number of bytes in front of the first one that belongs to no UTF-8
character. -/
def textLength (bytes : Bytes) : Nat :=
  match bytes, leadingCharacter? bytes with
  | _ :: rest, some length => length + textLength (rest.drop (length - 1))
  | _, _ => 0
termination_by bytes.length
decreasing_by simp only [List.length_drop, List.length_cons]; omega

theorem ofText_append (a b : String) : ofText (a ++ b) = ofText a ++ ofText b := by
  simp [ofText]

/-- Consecutive pieces of `size` bytes; only the last one may be shorter, and
none is empty. A size of zero counts as one. -/
def pieces (size : Nat) (bytes : Bytes) : List Bytes :=
  match bytes with
  | [] => []
  | first :: rest =>
    (first :: rest.take (size - 1)) :: pieces size (rest.drop (size - 1))
termination_by bytes.length
decreasing_by simp only [List.length_drop, List.length_cons]; omega

theorem pieces_nil (size : Nat) : pieces size [] = [] := by rw [pieces]

theorem pieces_flatten (size : Nat) (bytes : Bytes) : (pieces size bytes).flatten = bytes := by
  fun_induction pieces size bytes with
  | case1 => rfl
  | case2 first rest ih => simp [ih, List.take_append_drop]

end Bytes

end CommandLink
