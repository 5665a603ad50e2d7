import Mathlib.Data.List.Basic

/-! UTF-8 decoded chunk by chunk. -/
namespace Utf8

abbrev Bytes := List UInt8

def encode (text : List Char) : Bytes := text.flatMap String.utf8EncodeChar

/-- A decoder that keeps what it needs of one chunk for the next. -/
structure Decoder (S : Type) where
  start : S
  decode : S → Bytes → S × List Char

def Decoder.run {S : Type} (decoder : Decoder S) : S → List Bytes → List Char
  | _, [] => []
  | s, chunk :: chunks => (decoder.decode s chunk).2 ++ decoder.run (decoder.decode s chunk).1 chunks

def byteOrderMark : Char := '\uFEFF'

/-- The decoder restores every text, wherever it was cut. A leading byte order mark it may drop. -/
def Decoder.Restores {S : Type} (decoder : Decoder S) : Prop :=
  ∀ (text : List Char) (chunks : List Bytes), text.head? ≠ some byteOrderMark →
    chunks.flatten = encode text → decoder.run decoder.start chunks = text

/-- Of what has come of a text the decoder gives a start of the text. -/
def Decoder.Begins {S : Type} (decoder : Decoder S) : Prop :=
  ∀ (text : List Char) (chunks : List Bytes), text.head? ≠ some byteOrderMark →
    chunks.flatten <+: encode text → decoder.run decoder.start chunks <+: text

/-- The characters that are whole, and the bytes after them. -/
def decodeWhole : Nat → Bytes → Bytes × List Char
  | 0, bytes => (bytes, [])
  | fuel + 1, bytes =>
    match bytes.toByteArray.utf8DecodeChar? 0 with
    | none => (bytes, [])
    | some c =>
      let (rest, text) := decodeWhole fuel (bytes.drop c.utf8Size)
      (rest, c :: text)

/-- Pending are the bytes of a character cut between chunks. -/
def streaming : Decoder Bytes where
  start := []
  decode pending chunk := decodeWhole (pending ++ chunk).length (pending ++ chunk)

theorem toByteArray_encode (text : List Char) : (encode text).toByteArray = text.utf8Encode := rfl

theorem prefix_of_decodes {bytes : Bytes} {c : Char} (decodes : bytes.toByteArray.utf8DecodeChar? 0 = some c) :
    bytes = String.utf8EncodeChar c ++ bytes.drop c.utf8Size := by
  obtain ⟨rest, split⟩ := ByteArray.exists_of_utf8DecodeChar?_eq_some decodes
  have split : bytes = String.utf8EncodeChar c ++ rest.data.toList := by
    have data := congrArg (fun b => b.data.toList) split
    simpa using data
  have size : (String.utf8EncodeChar c).length = c.utf8Size := String.length_utf8EncodeChar c
  rw [← size]
  conv => lhs; rw [split]
  conv => rhs; rw [split]
  rw [List.drop_left]

theorem head_of_decodes {bytes later : Bytes} {text : List Char} {c : Char}
    (decodes : bytes.toByteArray.utf8DecodeChar? 0 = some c) (cut : bytes ++ later = encode text) :
    ∃ rest, text = c :: rest ∧ bytes.drop c.utf8Size ++ later = encode rest := by
  have longer := ByteArray.utf8DecodeChar?_append_eq_some decodes later.toByteArray
  rw [← List.toByteArray_append, cut, toByteArray_encode] at longer
  cases text with
  | nil =>
    have inside := ByteArray.lt_size_of_isSome_utf8DecodeChar? (Option.isSome_of_eq_some longer)
    exact absurd inside (by simp)
  | cons d rest =>
    rw [List.utf8DecodeChar?_utf8Encode_cons] at longer
    cases longer
    refine ⟨rest, rfl, ?_⟩
    rw [prefix_of_decodes decodes, List.append_assoc] at cut
    exact List.append_cancel_left cut

/-- What is decoded of a cut text is a start of it, and what is kept goes on with the rest. -/
theorem decodeWhole_cut (fuel : Nat) {bytes later : Bytes} {text : List Char} (cut : bytes ++ later = encode text) :
    ∃ rest, text = (decodeWhole fuel bytes).2 ++ rest ∧ (decodeWhole fuel bytes).1 ++ later = encode rest := by
  induction fuel generalizing bytes text with
  | zero => exact ⟨text, rfl, cut⟩
  | succ fuel ih =>
    cases decodes : bytes.toByteArray.utf8DecodeChar? 0 with
    | none =>
      simp only [decodeWhole, decodes]
      exact ⟨text, rfl, cut⟩
    | some c =>
      obtain ⟨tail, rfl, later_cut⟩ := head_of_decodes decodes cut
      obtain ⟨rest, split, kept⟩ := ih later_cut
      simp only [decodeWhole, decodes]
      exact ⟨rest, by rw [List.cons_append, ← split], kept⟩

def Stuck (bytes : Bytes) : Prop := bytes.toByteArray.utf8DecodeChar? 0 = none

theorem stuck_nil : Stuck [] := by
  cases decodes : ([] : Bytes).toByteArray.utf8DecodeChar? 0 with
  | none => exact decodes
  | some c =>
    have inside := ByteArray.lt_size_of_isSome_utf8DecodeChar? (Option.isSome_of_eq_some decodes)
    exact absurd inside (by simp)

theorem decodeWhole_stuck {fuel : Nat} {bytes : Bytes} (enough : bytes.length ≤ fuel) :
    Stuck (decodeWhole fuel bytes).1 := by
  induction fuel generalizing bytes with
  | zero =>
    rw [List.eq_nil_of_length_eq_zero (Nat.le_zero.mp enough)]
    exact stuck_nil
  | succ fuel ih =>
    cases decodes : bytes.toByteArray.utf8DecodeChar? 0 with
    | none =>
      simp only [decodeWhole, decodes]
      exact decodes
    | some c =>
      simp only [decodeWhole, decodes]
      apply ih
      have pos := c.utf8Size_pos
      rw [List.length_drop]
      omega

theorem encode_stuck {text : List Char} (stuck : Stuck (encode text)) : text = [] := by
  cases text with
  | nil => rfl
  | cons c rest =>
    unfold Stuck at stuck
    rw [toByteArray_encode, List.utf8DecodeChar?_utf8Encode_cons] at stuck
    cases stuck

theorem streaming_run (chunks : List Bytes) {pending : Bytes} {text : List Char} (stuck : Stuck pending)
    (cut : pending ++ chunks.flatten = encode text) : streaming.run pending chunks = text := by
  induction chunks generalizing pending text with
  | nil =>
    rw [List.flatten_nil, List.append_nil] at cut
    rw [cut] at stuck
    exact (encode_stuck stuck).symm
  | cons chunk chunks ih =>
    rw [List.flatten_cons, ← List.append_assoc] at cut
    obtain ⟨rest, rfl, later⟩ := decodeWhole_cut (pending ++ chunk).length cut
    have whole := ih (decodeWhole_stuck (Nat.le_refl _)) later
    exact congrArg _ whole

theorem streaming_run_begins (chunks : List Bytes) {pending later : Bytes} {text : List Char}
    (cut : pending ++ (chunks.flatten ++ later) = encode text) : streaming.run pending chunks <+: text := by
  induction chunks generalizing pending text with
  | nil => exact List.nil_prefix
  | cons chunk chunks ih =>
    rw [List.flatten_cons, List.append_assoc, ← List.append_assoc] at cut
    obtain ⟨rest, rfl, further⟩ := decodeWhole_cut (pending ++ chunk).length cut
    exact (List.prefix_append_right_inj _).mpr (ih further)

theorem streaming_begins : streaming.Begins := by
  intro text chunks _ come
  obtain ⟨later, cut⟩ := come
  exact streaming_run_begins chunks cut

theorem streaming_restores : streaming.Restores := by
  intro text chunks _ cut
  exact streaming_run chunks stuck_nil cut

end Utf8
