import Marketplace.Accounts.Schema

/-! Refresh tokens as text, and what bcrypt compares of it. -/
namespace Marketplace.Accounts
open Base64Url

/-- A comparison looks at no more than 72 bytes. -/
structure Bcrypt where
  hash : (salt : Bytes) → (plainData : Bytes) → Bytes
  compare : (plainData : Bytes) → (hashedData : Bytes) → Bool
  compare_hash : ∀ salt x y, compare x (hash salt y) = true ↔ x.take 72 = y.take 72

/-- The packages and the settings of the service: `sign` is the signature under `JWT_REFRESH_SECRET`
and `refreshTokenExpiration` is in milliseconds. -/
structure AuthConfig where
  bcrypt : Bcrypt
  sign : Bytes → Bytes
  refreshTokenExpiration : Nat

/-- A column without a hash makes bcrypt throw, which counts as no match. -/
def compareHashedDataHelper (cfg : AuthConfig) (plainData : Bytes) (hashedData : Option Bytes) : Bool :=
  hashedData.any (cfg.bcrypt.compare plainData)

def jwtHeader : Bytes := ascii "\x7b\"alg\":\"HS256\",\"typ\":\"JWT\"\x7d"

def dot : Bytes := ascii "."

def RefreshToken.payload (t : RefreshToken) : Bytes :=
  ascii "\x7b\"sub\":\"" ++ t.sub.text ++ (ascii "\",\"sessionId\":\"" ++ t.sessionId.text ++
    ascii ("\",\"iat\":" ++ toString t.iat ++ ",\"exp\":" ++ toString t.exp ++ "\x7d"))

def RefreshToken.signingInput (t : RefreshToken) : Bytes := encode jwtHeader ++ dot ++ encode t.payload

def RefreshToken.text (sign : Bytes → Bytes) (t : RefreshToken) : Bytes :=
  t.signingInput ++ dot ++ encode (sign t.signingInput)

/-- Fourteen whole groups of the payload. -/
def payloadStart (sub : Uuid) : Bytes := (ascii "\x7b\"sub\":\"" ++ sub.text).take 42

/-- What every refresh token of a user begins with. -/
def opening (sub : Uuid) : Bytes := encode jwtHeader ++ dot ++ encode (payloadStart sub)

theorem length_payloadStart (sub : Uuid) : (payloadStart sub).length = 42 := by
  have start : (ascii "\x7b\"sub\":\"").length = 8 := by decide +kernel
  rw [payloadStart, List.length_take, List.length_append, start, sub.length]
  rfl

theorem length_opening (sub : Uuid) : (opening sub).length = 93 := by
  have header : (encode jwtHeader ++ dot).length = 37 := by decide +kernel
  rw [opening, List.length_append, header, length_encode _ (by rw [length_payloadStart]), length_payloadStart]

theorem payload_start (t : RefreshToken) : ∃ rest, t.payload = payloadStart t.sub ++ rest := by
  have split := List.take_append_drop 42 (ascii "\x7b\"sub\":\"" ++ t.sub.text)
  rw [RefreshToken.payload, ← split, List.append_assoc]
  exact ⟨_, rfl⟩

theorem text_opening (sign : Bytes → Bytes) (t : RefreshToken) : ∃ rest, t.text sign = opening t.sub ++ rest := by
  obtain ⟨rest, start⟩ := payload_start t
  have signed : t.signingInput = opening t.sub ++ encode rest := by
    rw [RefreshToken.signingInput, start, encode_append _ _ (by rw [length_payloadStart]), opening]
    simp only [List.append_assoc]
  refine ⟨encode rest ++ (dot ++ encode (sign t.signingInput)), ?_⟩
  rw [RefreshToken.text, signed]
  simp only [List.append_assoc]

/-- Tokens of one user are one to bcrypt. -/
theorem text_take (sign : Bytes → Bytes) {t u : RefreshToken} (same : t.sub = u.sub) :
    (t.text sign).take 72 = (u.text sign).take 72 := by
  obtain ⟨rest, first⟩ := text_opening sign t
  obtain ⟨other, second⟩ := text_opening sign u
  have enough : ∀ more, (opening u.sub ++ more).take 72 = (opening u.sub).take 72 := fun more =>
    List.take_append_of_le_length (by rw [length_opening]; decide)
  rw [first, second, same, enough, enough]

theorem compare_text (cfg : AuthConfig) {t u : RefreshToken} (same : t.sub = u.sub) (salt : Bytes) :
    compareHashedDataHelper cfg (t.text cfg.sign) (some (cfg.bcrypt.hash salt (u.text cfg.sign))) = true :=
  (cfg.bcrypt.compare_hash salt _ _).mpr (text_take cfg.sign same)

end Marketplace.Accounts
