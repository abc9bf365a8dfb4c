/-
Daybook.Text.Bytes — the length of a text in bytes.
-/
namespace Daybook.Text

/-- The number of bytes that the characters take in UTF-8. -/
def bytes : List Char → Nat
  | [] => 0
  | c :: cs => c.utf8Size + bytes cs

theorem bytes_eq (cs : List Char) : bytes cs = (String.ofList cs).utf8ByteSize := by
  induction cs with
  | nil => rfl
  | cons c cs ih =>
    rw [bytes, ih, String.ofList_cons, String.utf8ByteSize_append, String.utf8ByteSize_singleton]

theorem bytes_append (as bs : List Char) : bytes (as ++ bs) = bytes as + bytes bs := by
  simp only [bytes_eq, String.ofList_append, String.utf8ByteSize_append]

end Daybook.Text
