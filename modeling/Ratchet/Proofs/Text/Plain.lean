import Mathlib.Data.List.Basic
import Ratchet.FileSystem

/-!
# Plain text

A text is plain if its characters are ASCII and no carriage return is among
them. Such a text is read from a file as it was written.
-/

namespace Ratchet.Text

/-- Whether a character is ASCII and no carriage return. -/
def IsPlain (c : Char) : Prop := c.toNat < 0x80 ∧ c ≠ '\r'

instance (c : Char) : Decidable (IsPlain c) := inferInstanceAs (Decidable (_ ∧ _))

theorem isPlain_word (word : String) (h : word.toList.all (decide <| IsPlain ·) = true) {c : Char}
    (hc : c ∈ word.toList) : IsPlain c :=
  of_decide_eq_true (List.all_eq_true.mp h c hc)

/-- A plain text has no line ends to unify. -/
theorem unifyNewlines_eq {cs : List Char} (h : ∀ c ∈ cs, IsPlain c) : unifyNewlines cs = cs := by
  induction cs with
  | nil => rfl
  | cons c cs ih =>
    have hc := (h c (.head _)).2
    rw [unifyNewlines, ih fun d hd => h d (.tail _ hd)]
    all_goals simp [hc]

/-! ## Bytes -/

theorem toList_loop (bytes : ByteArray) (i : Nat) (read : List UInt8) :
    ByteArray.toList.loop bytes i read = read.reverse ++ bytes.data.toList.drop i := by
  rw [ByteArray.toList.loop]
  split
  · rename_i hi
    have hlen : i < bytes.data.toList.length := hi
    have hget : bytes.get! i = bytes.data.toList[i] := getElem!_pos bytes.data i hi
    rw [toList_loop bytes (i + 1), List.drop_eq_getElem_cons hlen, hget, List.reverse_cons,
      List.append_assoc, List.singleton_append]
  · rename_i hi
    rw [List.drop_eq_nil_of_le (by simpa using hi), List.append_nil]
termination_by bytes.size - i

/-- The bytes of an array, read one by one or taken at once. -/
theorem toList_eq (bytes : ByteArray) : bytes.toList = bytes.data.toList := by
  rw [ByteArray.toList, toList_loop]
  rfl

/-- The bytes of a plain text are its code points. -/
theorem toList_toUTF8 {s : String} (h : ∀ c ∈ s.toList, IsPlain c) :
    s.toUTF8.toList = s.toList.map fun c => c.val.toUInt8 := by
  have hencode : ∀ cs : List Char, (∀ c ∈ cs, IsPlain c) →
      cs.flatMap String.utf8EncodeChar = cs.map fun c => c.val.toUInt8 := by
    intro cs h
    induction cs with
    | nil => rfl
    | cons c cs ih =>
      have hsize : c.utf8Size = 1 := by
        have hc : c.val.toNat < 0x80 := (h c (.head _)).1
        exact if_pos (UInt32.le_iff_toNat_le.mpr (Nat.le_of_lt_succ hc))
      rw [List.flatMap_cons, String.utf8EncodeChar_eq_singleton hsize,
        ih fun d hd => h d (.tail _ hd)]
      rfl
  have hbytes : s.toUTF8 = s.toList.utf8Encode := by
    rw [String.toUTF8_eq_toByteArray, ← String.toByteArray_ofList, String.ofList_toList]
  rw [toList_eq, ← hencode _ h, hbytes, List.utf8Encode, List.toList_data_toByteArray]

namespace Utf8

theorem piece_eq {c : Char} (h : c.toNat < 0x80) (rest : List UInt8) :
    piece c.val.toUInt8 rest = .char c 1 := by
  have hbyte : c.val.toUInt8.toNat = c.toNat := by
    rw [UInt32.toNat_toUInt8]
    exact Nat.mod_eq_of_lt (by have : c.val.toNat = c.toNat := rfl; omega)
  have hlow : c.val.toUInt8 < 0x80 := UInt8.lt_iff_toNat_lt.mpr (hbyte ▸ h)
  rw [piece, following?, if_pos hlow, hbyte, Char.ofNat_toNat]
  rfl

/-- Plain characters are written with one byte each. -/
theorem pieces_eq {cs : List Char} (h : ∀ c ∈ cs, IsPlain c) :
    pieces (cs.map fun c => c.val.toUInt8) = cs.map fun c => .char c 1 := by
  induction cs with
  | nil => rw [List.map_nil, pieces, List.map_nil]
  | cons c cs ih =>
    rw [List.map_cons, pieces, piece_eq (h c (.head _)).1]
    exact congrArg _ (ih fun d hd => h d (.tail _ hd))

/-- Bytes of plain characters are decoded as these. -/
theorem strictFrom_eq (bytes : List UInt8) (place : Nat) (cs : List Char) :
    strictFrom bytes place (cs.map fun c => .char c 1) = .ok cs := by
  induction cs generalizing place with
  | nil => rfl
  | cons c cs ih =>
    rw [List.map_cons, strictFrom, ih]
    rfl

/-- **A plain text is read as it was written.** -/
theorem decode_toUTF8 {s : String} (h : ∀ c ∈ s.toList, IsPlain c) :
    decode s.toUTF8.toList = .ok s.toList := by
  rw [decode, toList_toUTF8 h, pieces_eq h, strictFrom_eq]

theorem decodeLossy_toUTF8 {s : String} (h : ∀ c ∈ s.toList, IsPlain c) :
    decodeLossy s.toUTF8.toList = s.toList := by
  rw [decodeLossy, toList_toUTF8 h, pieces_eq h, List.map_map]
  exact List.map_id _

end Utf8

end Ratchet.Text
