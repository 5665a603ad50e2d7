import Marketplace.Utf8
import Mathlib.Data.List.Basic

/-! Percent encoding, and queries of names and values in the form encoding. -/
namespace FormEncoding

abbrev Text := List Char

def hexDigit (n : Nat) : Char := if n < 10 then Char.ofNat (48 + n) else Char.ofNat (55 + n)

def hexValue (c : Char) : Option Nat :=
  let n := c.toNat
  if 48 ≤ n ∧ n ≤ 57 then some (n - 48)
  else if 65 ≤ n ∧ n ≤ 70 then some (n - 55)
  else if 97 ≤ n ∧ n ≤ 102 then some (n - 87)
  else none

def escapeByte (b : UInt8) : Text := ['%', hexDigit (b.toNat / 16), hexDigit (b.toNat % 16)]

def isUnreserved (c : Char) : Bool :=
  c.isAlphanum || c ∈ ['-', '_', '.', '!', '~', '*', '\x27', '(', ')']

def encodeChar (c : Char) : Text :=
  if isUnreserved c then [c] else (String.utf8EncodeChar c).flatMap escapeByte

/-- `encodeURIComponent` of ECMAScript. -/
def encodeURIComponent (text : Text) : Text := text.flatMap encodeChar

/-- A percent sign before anything but two digits is left as it is. -/
def unescape : Text → Utf8.Bytes
  | '%' :: a :: b :: rest =>
    match hexValue a, hexValue b with
    | some x, some y => UInt8.ofNat (16 * x + y) :: unescape rest
    | _, _ => 37 :: unescape (a :: b :: rest)
  | c :: rest => String.utf8EncodeChar c ++ unescape rest
  | [] => []

/-- Bytes that begin no character become the replacement character. -/
def decodeLossy : Nat → Utf8.Bytes → Text
  | 0, _ => []
  | _ + 1, [] => []
  | fuel + 1, byte :: rest =>
    match (byte :: rest).toByteArray.utf8DecodeChar? 0 with
    | some c => c :: decodeLossy fuel ((byte :: rest).drop c.utf8Size)
    | none => '\uFFFD' :: decodeLossy fuel rest

def decodeURIComponent (text : Text) : Text := decodeLossy (unescape text).length (unescape text)

/-- `replace(/%20/g, '+')` -/
def spacesPlus : Text → Text
  | '%' :: '2' :: '0' :: rest => '+' :: spacesPlus rest
  | c :: rest => c :: spacesPlus rest
  | [] => []

def formEncode (text : Text) : Text := spacesPlus (encodeURIComponent text)

def plusSpace (c : Char) : Char := if c = '+' then ' ' else c

def formDecode (text : Text) : Text := decodeURIComponent (text.map plusSpace)

def splitOn (sep : Char) : Text → List Text
  | [] => [[]]
  | c :: rest =>
    if c = sep then [] :: splitOn sep rest
    else match splitOn sep rest with
      | [] => [[c]]
      | part :: parts => (c :: part) :: parts

/-- A part without an equals sign is a name with an empty value. -/
def cut (part : Text) : Text × Text := (part.takeWhile (· ≠ '='), (part.dropWhile (· ≠ '=')).drop 1)

/-- The standard form decoding of a query. -/
def formParse (query : Text) : List (Text × Text) :=
  ((splitOn '&' query).filter (· ≠ [])).map fun part => (formDecode (cut part).1, formDecode (cut part).2)

def joinPairs (pairs : List (Text × Text)) : Text := ['&'].intercalate (pairs.map fun p => p.1 ++ '=' :: p.2)

/-! ### One character -/

theorem hexValue_hexDigit {n : Nat} (small : n < 16) : hexValue (hexDigit n) = some n := by
  have each : ∀ k < 16, hexValue (hexDigit k) = some k := by decide
  exact each n small

theorem unescape_byte (b : UInt8) (rest : Text) : unescape (escapeByte b ++ rest) = b :: unescape rest := by
  have bound := b.toNat_lt
  have high : b.toNat / 16 < 16 := by omega
  have low : b.toNat % 16 < 16 := Nat.mod_lt _ (by omega)
  have whole : 16 * (b.toNat / 16) + b.toNat % 16 = b.toNat := Nat.div_add_mod ..
  dsimp only [escapeByte, List.cons_append, List.nil_append]
  rw [unescape, hexValue_hexDigit high, hexValue_hexDigit low]
  dsimp only
  rw [whole, UInt8.ofNat_toNat]

theorem unescape_bytes (bytes : Utf8.Bytes) (rest : Text) :
    unescape (bytes.flatMap escapeByte ++ rest) = bytes ++ unescape rest := by
  induction bytes with
  | nil => rfl
  | cons b bytes ih => rw [List.flatMap_cons, List.append_assoc, unescape_byte, ih, List.cons_append]

theorem unescape_plain {c : Char} (plain : c ≠ '%') (rest : Text) :
    unescape (c :: rest) = String.utf8EncodeChar c ++ unescape rest := by
  rw [unescape]
  intro a b tail same
  exact absurd same plain

theorem unescape_char (c : Char) (rest : Text) :
    unescape (encodeChar c ++ rest) = String.utf8EncodeChar c ++ unescape rest := by
  unfold encodeChar
  split
  · rename_i unreserved
    refine unescape_plain ?_ rest
    rintro rfl
    exact absurd unreserved (by decide)
  · exact unescape_bytes _ rest

theorem unescape_encode (text : Text) : unescape (encodeURIComponent text) = Utf8.encode text := by
  induction text with
  | nil => rfl
  | cons c text ih =>
    refine (unescape_char c (encodeURIComponent text)).trans ?_
    rw [ih]
    rfl

theorem decodeLossy_encode (text : Text) {fuel : Nat} (enough : (Utf8.encode text).length ≤ fuel) :
    decodeLossy fuel (Utf8.encode text) = text := by
  induction text generalizing fuel with
  | nil => cases fuel <;> rfl
  | cons c text ih =>
    have decodes : (Utf8.encode (c :: text)).toByteArray.utf8DecodeChar? 0 = some c := by
      rw [Utf8.toByteArray_encode, List.utf8DecodeChar?_utf8Encode_cons]
    have size : (String.utf8EncodeChar c).length = c.utf8Size := String.length_utf8EncodeChar c
    have split : Utf8.encode (c :: text) = String.utf8EncodeChar c ++ Utf8.encode text := List.flatMap_cons
    have rest : (Utf8.encode (c :: text)).drop c.utf8Size = Utf8.encode text := by
      rw [split, ← size, List.drop_left]
    have positive := c.utf8Size_pos
    have length := congrArg List.length split
    rw [List.length_append, size] at length
    cases bytes : Utf8.encode (c :: text) with
    | nil =>
      rw [bytes, List.length_nil] at length
      omega
    | cons byte tail =>
      rw [bytes] at decodes rest length enough
      cases fuel with
      | zero =>
        rw [List.length_cons] at enough
        omega
      | succ fuel =>
        rw [decodeLossy, decodes]
        dsimp only
        rw [rest, ih (by omega)]

theorem decode_encode (text : Text) : decodeURIComponent (encodeURIComponent text) = text := by
  unfold decodeURIComponent
  rw [unescape_encode]
  exact decodeLossy_encode text (Nat.le_refl _)

/-! ### Spaces -/

def formChar (c : Char) : Text := if c = ' ' then ['+'] else encodeChar c

theorem spacesPlus_plain {c : Char} (plain : c ≠ '%') (rest : Text) : spacesPlus (c :: rest) = c :: spacesPlus rest := by
  rw [spacesPlus]
  intro tail same
  exact absurd same plain

theorem hexDigit_ne {n : Nat} (small : n < 16) {c : Char} (other : hexValue c = none) : hexDigit n ≠ c := by
  rintro rfl
  rw [hexValue_hexDigit small] at other
  cases other

/-- Only the byte of a space is written as `%20`. -/
theorem spacesPlus_byte {b : UInt8} (visible : b ≠ 32) (rest : Text) :
    spacesPlus (escapeByte b ++ rest) = escapeByte b ++ spacesPlus rest := by
  have bound := b.toNat_lt
  have high : b.toNat / 16 < 16 := by omega
  have low : b.toNat % 16 < 16 := Nat.mod_lt _ (by omega)
  have percent : hexValue '%' = none := by decide
  dsimp only [escapeByte, List.cons_append, List.nil_append]
  rw [spacesPlus, spacesPlus_plain (hexDigit_ne high percent), spacesPlus_plain (hexDigit_ne low percent)]
  intro tail _ digits
  obtain ⟨first, digits⟩ := List.cons.inj digits
  have second : hexDigit (b.toNat % 16) = '0' := (List.cons.inj digits).1
  have values := hexValue_hexDigit high
  have lows := hexValue_hexDigit low
  rw [first] at values
  rw [second] at lows
  have quotient : b.toNat / 16 = 2 := (Option.some.inj values).symm
  have remainder : b.toNat % 16 = 0 := (Option.some.inj lows).symm
  refine visible (UInt8.toNat_inj.mp ?_)
  have whole : (32 : UInt8).toNat = 32 := rfl
  omega

/-- The bytes of every other character differ from that of a space. -/
theorem utf8_visible {c : Char} (visible : c ≠ ' ') : ∀ b ∈ String.utf8EncodeChar c, b ≠ 32 := by
  rintro b mem rfl
  have value : c.val.toNat ≠ 32 := by
    intro same
    exact visible (Char.ext (UInt32.toNat_inj.mp same))
  have byte (n : Nat) (bound : n < 256) (same : (32 : UInt8) = UInt8.ofNat n) : n = 32 := by
    have nat := congrArg UInt8.toNat same
    rw [UInt8.toNat_ofNat', Nat.mod_eq_of_lt bound] at nat
    exact nat.symm
  unfold String.utf8EncodeChar at mem
  dsimp only at mem
  split at mem
  · rw [List.mem_singleton] at mem
    exact value (byte _ (by omega) mem)
  · have absent (n k : Nat) (least : 128 ≤ k) (most : n + k < 256) : (32 : UInt8) ≠ UInt8.ofNat (n + k) := by
      intro same
      have equal := byte _ most same
      omega
    split at mem
    · simp only [List.mem_cons, List.not_mem_nil, or_false] at mem
      rcases mem with same | same
      · exact absent _ 0xc0 (by omega) (by omega) same
      · exact absent _ 0x80 (by omega) (by omega) same
    · split at mem
      · simp only [List.mem_cons, List.not_mem_nil, or_false] at mem
        rcases mem with same | same | same
        · exact absent _ 0xe0 (by omega) (by omega) same
        · exact absent _ 0x80 (by omega) (by omega) same
        · exact absent _ 0x80 (by omega) (by omega) same
      · simp only [List.mem_cons, List.not_mem_nil, or_false] at mem
        rcases mem with same | same | same | same
        · exact absent _ 0xf0 (by omega) (by omega) same
        · exact absent _ 0x80 (by omega) (by omega) same
        · exact absent _ 0x80 (by omega) (by omega) same
        · exact absent _ 0x80 (by omega) (by omega) same

theorem spacesPlus_char (c : Char) (rest : Text) : spacesPlus (encodeChar c ++ rest) = formChar c ++ spacesPlus rest := by
  unfold formChar
  split
  · rename_i space
    subst space
    rfl
  · rename_i visible
    unfold encodeChar
    split
    · rename_i unreserved
      refine spacesPlus_plain ?_ rest
      rintro rfl
      exact absurd unreserved (by decide)
    · have seen := utf8_visible visible
      generalize String.utf8EncodeChar c = bytes at seen
      induction bytes with
      | nil => rfl
      | cons b bytes ih =>
        rw [List.flatMap_cons, List.append_assoc, spacesPlus_byte (seen b List.mem_cons_self),
          ih fun b mem => seen b (List.mem_cons_of_mem _ mem), List.append_assoc]

theorem formEncode_chars (text : Text) : formEncode text = text.flatMap formChar := by
  unfold formEncode
  induction text with
  | nil => rfl
  | cons c text ih =>
    refine (spacesPlus_char c (encodeURIComponent text)).trans ?_
    rw [ih]
    rfl

/-! ### Which characters are written -/

def isWritten (c : Char) : Bool := isUnreserved c || c == '%'

theorem escapeByte_written (b : UInt8) : ∀ c ∈ escapeByte b, isWritten c = true := by
  have digits : ∀ k < 16, isWritten (hexDigit k) = true := by decide
  have bound := b.toNat_lt
  intro c mem
  simp only [escapeByte, List.mem_cons, List.not_mem_nil, or_false] at mem
  rcases mem with rfl | rfl | rfl
  · rfl
  · exact digits _ (by omega)
  · exact digits _ (by omega)

theorem encodeChar_written (c : Char) : ∀ x ∈ encodeChar c, isWritten x = true := by
  intro x mem
  unfold encodeChar at mem
  split at mem
  · rename_i unreserved
    rw [List.mem_singleton.mp mem, isWritten, unreserved]
    rfl
  · obtain ⟨b, _, digit⟩ := List.mem_flatMap.mp mem
    exact escapeByte_written b x digit

theorem encode_written (text : Text) : ∀ x ∈ encodeURIComponent text, isWritten x = true := by
  intro x mem
  obtain ⟨c, _, written⟩ := List.mem_flatMap.mp mem
  exact encodeChar_written c x written

theorem formEncode_written (text : Text) : ∀ x ∈ formEncode text, isWritten x = true ∨ x = '+' := by
  intro x mem
  rw [formEncode_chars] at mem
  obtain ⟨c, _, written⟩ := List.mem_flatMap.mp mem
  unfold formChar at written
  split at written
  · exact .inr (List.mem_singleton.mp written)
  · exact .inl (encodeChar_written c x written)

theorem absent_encode {sep : Char} (separates : isWritten sep = false) (text : Text) :
    sep ∉ encodeURIComponent text := by
  intro mem
  rw [encode_written text sep mem] at separates
  cases separates

theorem absent_formEncode {sep : Char} (separates : isWritten sep = false) (other : sep ≠ '+') (text : Text) :
    sep ∉ formEncode text := by
  intro mem
  rcases formEncode_written text sep mem with written | plus
  · rw [written] at separates
    cases separates
  · exact other plus

theorem map_plusSpace {text : Text} (noPlus : '+' ∉ text) : text.map plusSpace = text := by
  refine (List.map_congr_left fun c mem => ?_).trans (List.map_id text)
  have other : c ≠ '+' := fun plus => noPlus (plus ▸ mem)
  exact if_neg other

theorem formDecode_encode (text : Text) : formDecode (encodeURIComponent text) = text := by
  unfold formDecode
  rw [map_plusSpace (absent_encode (by decide) text)]
  exact decode_encode text

theorem unescape_formChar (c : Char) (rest : Text) :
    unescape ((formChar c).map plusSpace ++ rest) = String.utf8EncodeChar c ++ unescape rest := by
  unfold formChar
  split
  · rename_i space
    subst space
    exact unescape_plain (by decide) rest
  · have noPlus : '+' ∉ encodeChar c := fun mem => absurd (encodeChar_written c '+' mem) (by decide)
    rw [map_plusSpace noPlus]
    exact unescape_char c rest

theorem unescape_formEncode (text : Text) : unescape ((formEncode text).map plusSpace) = Utf8.encode text := by
  rw [formEncode_chars]
  induction text with
  | nil => rfl
  | cons c text ih =>
    rw [List.flatMap_cons, List.map_append, unescape_formChar, ih]
    rfl

theorem formDecode_formEncode (text : Text) : formDecode (formEncode text) = text := by
  unfold formDecode decodeURIComponent
  rw [unescape_formEncode]
  exact decodeLossy_encode text (Nat.le_refl _)

/-! ### A query -/

theorem splitOn_absent {sep : Char} {part : Text} (absent : sep ∉ part) : splitOn sep part = [part] := by
  induction part with
  | nil => rfl
  | cons c part ih =>
    have other : c ≠ sep := fun same => absent (same ▸ List.mem_cons_self)
    rw [splitOn, if_neg other, ih fun mem => absent (List.mem_cons_of_mem c mem)]

theorem splitOn_cons {sep : Char} {part : Text} (absent : sep ∉ part) (rest : Text) :
    splitOn sep (part ++ sep :: rest) = part :: splitOn sep rest := by
  induction part with
  | nil => rw [List.nil_append, splitOn, if_pos rfl]
  | cons c part ih =>
    have other : c ≠ sep := fun same => absent (same ▸ List.mem_cons_self)
    rw [List.cons_append, splitOn, if_neg other, ih fun mem => absent (List.mem_cons_of_mem c mem)]

theorem splitOn_intercalate {sep : Char} {parts : List Text} (absent : ∀ part ∈ parts, sep ∉ part)
    (nonempty : parts ≠ []) : splitOn sep ([sep].intercalate parts) = parts := by
  induction parts with
  | nil => exact absurd rfl nonempty
  | cons part parts ih =>
    have first := absent part List.mem_cons_self
    cases parts with
    | nil => simpa using splitOn_absent first
    | cons next parts =>
      have rest := ih (fun part mem => absent part (List.mem_cons_of_mem _ mem)) (List.cons_ne_nil _ _)
      have joined : [sep].intercalate (part :: next :: parts) = part ++ sep :: [sep].intercalate (next :: parts) := rfl
      rw [joined, splitOn_cons first, rest]

theorem cut_pair {name : Text} (absent : '=' ∉ name) (value : Text) : cut (name ++ '=' :: value) = (name, value) := by
  have before : ∀ c ∈ name, decide (c ≠ '=') = true := by
    intro c mem
    rw [decide_eq_true_eq]
    rintro rfl
    exact absent mem
  unfold cut
  rw [List.takeWhile_append_of_pos before, List.dropWhile_append_of_pos before]
  rw [List.takeWhile_cons_of_neg (by decide), List.dropWhile_cons_of_neg (by decide), List.append_nil]
  rfl

/-- A query written with the form encoding decodes to its names and values, in their order. -/
theorem formParse_join (pairs : List (Text × Text)) :
    formParse (joinPairs (pairs.map fun p => (encodeURIComponent p.1, formEncode p.2))) = pairs := by
  rcases eq_or_ne pairs [] with rfl | nonempty
  · rfl
  · unfold formParse joinPairs
    rw [List.map_map, splitOn_intercalate]
    · rw [List.filter_eq_self.mpr]
      · rw [List.map_map]
        refine (List.map_congr_left fun p _ => ?_).trans (List.map_id pairs)
        dsimp only [Function.comp]
        rw [cut_pair (absent_encode (by decide) p.1), formDecode_encode, formDecode_formEncode]
        rfl
      · intro part mem
        obtain ⟨p, _, rfl⟩ := List.mem_map.mp mem
        exact decide_eq_true (List.append_ne_nil_of_right_ne_nil _ (List.cons_ne_nil _ _))
    · intro part mem
      obtain ⟨p, _, rfl⟩ := List.mem_map.mp mem
      intro separated
      rcases List.mem_append.mp separated with name | value
      · exact absent_encode (by decide) p.1 name
      · rcases List.mem_cons.mp value with equals | value
        · cases equals
        · exact absent_formEncode (by decide) (by decide) p.2 value
    · exact fun empty => nonempty (List.map_eq_nil_iff.mp empty)

theorem joinPairs_concat {pairs : List (Text × Text)} (nonempty : pairs ≠ []) (last : Text × Text) :
    joinPairs (pairs ++ [last]) = joinPairs pairs ++ '&' :: (last.1 ++ '=' :: last.2) := by
  induction pairs with
  | nil => exact absurd rfl nonempty
  | cons p pairs ih =>
    cases pairs with
    | nil => simp [joinPairs, List.intercalate]
    | cons q pairs =>
      have longer := ih (List.cons_ne_nil q pairs)
      have step (tail : List (Text × Text)) :
          joinPairs (p :: q :: tail) = p.1 ++ '=' :: p.2 ++ '&' :: joinPairs (q :: tail) := rfl
      rw [List.cons_append] at longer
      rw [List.cons_append, List.cons_append, step, step, longer]
      simp only [List.append_assoc, List.cons_append]

end FormEncoding
