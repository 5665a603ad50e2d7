import Mathlib.Data.List.Basic

/-! Base64url without padding, as web tokens write it. -/
namespace Base64Url

abbrev Bytes := List UInt8

/-- The bytes of a text of ASCII characters. -/
def ascii (s : String) : Bytes := s.toList.map fun c => c.toNat.toUInt8

def alphabet : Bytes := ascii "ABCDEFGHIJKLMNOPQRSTUVWXYZabcdefghijklmnopqrstuvwxyz0123456789-_"

def digit (n : Nat) : UInt8 := alphabet.getD n 0

/-- Four digits for three bytes; what is left over takes one digit more than it has bytes. -/
def encode : Bytes → Bytes
  | a :: b :: c :: rest =>
    let n := a.toNat * 65536 + b.toNat * 256 + c.toNat
    digit (n / 262144) :: digit (n / 4096 % 64) :: digit (n / 64 % 64) :: digit (n % 64) :: encode rest
  | [a, b] =>
    let n := a.toNat * 65536 + b.toNat * 256
    [digit (n / 262144), digit (n / 4096 % 64), digit (n / 64 % 64)]
  | [a] =>
    let n := a.toNat * 65536
    [digit (n / 262144), digit (n / 4096 % 64)]
  | [] => []

theorem encode_append (xs ys : Bytes) (whole : xs.length % 3 = 0) : encode (xs ++ ys) = encode xs ++ encode ys := by
  induction xs using encode.induct with
  | case1 a b c rest ih =>
    have rest_whole : rest.length % 3 = 0 := by
      simp only [List.length_cons] at whole
      omega
    simp [encode, ih rest_whole]
  | case2 a b => simp at whole
  | case3 a => simp at whole
  | case4 => rfl

theorem length_encode (xs : Bytes) (whole : xs.length % 3 = 0) : (encode xs).length = xs.length / 3 * 4 := by
  induction xs using encode.induct with
  | case1 a b c rest ih =>
    simp only [List.length_cons] at whole
    have shorter : (encode rest).length = rest.length / 3 * 4 := ih (by omega)
    simp only [encode, List.length_cons, shorter]
    omega
  | case2 a b => simp at whole
  | case3 a => simp at whole
  | case4 => rfl

end Base64Url
