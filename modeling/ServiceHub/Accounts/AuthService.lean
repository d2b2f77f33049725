/-
# `Accounts.AuthService` — registering, logging in, refreshing and logging out

`AuthService`, over the statements of `AuthRepository`.  A session has an access
token and a refresh token, and the row of the user has a hash of the latter.

What `bcrypt` and the signature compute is left to `AuthHost`, and which tokens
verify to whoever calls `refresh`.  The payload of a token that verifies is an
object, so that `if (!user)` is left out.  The clock is read once.
-/
import ServiceHub.Accounts.Database
import ServiceHub.Runtime
import ServiceHub.Data.Base64Url

namespace ServiceHub

open Data Txn

instance : ToString Role where
  toString
    | .user => "USER"
    | .admin => "ADMIN"

namespace Accounts

structure AuthHost where
  /-- `bcrypt.hash(text, 10)`, with the salt that it draws -/
  hash : String → String → String
  /-- `bcrypt.compare(text, hash)` -/
  compare : String → String → Bool
  /-- the HS256 signature of a text under a secret, in base64url -/
  hs256 : String → String → String
  secret : String
  refreshSecret : String
  /-- in seconds, as are all times in a token -/
  expiresIn : Int
  refreshExpiresIn : Int

/-- What one call is given. -/
structure AuthCtx where
  now : Time
  /-- the id of a user that is created -/
  id : Uuid
  passwordSalt : String
  tokenSalt : String

/-! ## Tokens -/

namespace Jwt

/-- What `JSON.stringify` makes of a character of a text. -/
def escape (c : Char) : List Char :=
  if c = '"' then ['\\', '"']
  else if c = '\\' then ['\\', '\\']
  else if c.toNat = 8 then ['\\', 'b']
  else if c.toNat = 9 then ['\\', 't']
  else if c.toNat = 10 then ['\\', 'n']
  else if c.toNat = 12 then ['\\', 'f']
  else if c.toNat = 13 then ['\\', 'r']
  else if c.toNat < 32 then
    ['\\', 'u', '0', '0', Nat.digitChar (c.toNat / 16), Nat.digitChar (c.toNat % 16)]
  else [c]

/-- `JSON.stringify(text)`. -/
def quote (s : String) : String := "\"" ++ String.ofList (s.toList.flatMap escape) ++ "\""

/-- What the payload of a user's token begins with. -/
def subject (user : User) : String :=
  "\x7b\"sub\":" ++ quote user.id ++ ",\"email\":" ++ quote user.email ++ ",\"role\":" ++
    quote (toString user.role) ++ ",\"iat\":"

/-- The payload of a token. -/
def payload (user : User) (iat exp : Int) : String :=
  subject user ++ (toString iat ++ ",\"exp\":" ++ toString exp ++ "\x7d")

def header : String := "\x7b\"alg\":\"HS256\",\"typ\":\"JWT\"\x7d"

def base64url (s : String) : String := String.ofList (Base64Url.encode (utf8 s))

end Jwt

/-- `jwtService.signAsync({ sub, email, role }, { secret, expiresIn })`. -/
def AuthHost.signAsync (host : AuthHost) (now : Time) (secret : String) (expiresIn : Int)
    (user : User) : String :=
  let iat := now / 1000
  let signed := Jwt.base64url Jwt.header ++ "." ++
    Jwt.base64url (Jwt.payload user iat (iat + expiresIn))
  signed ++ "." ++ host.hs256 secret signed

/-! ## The service -/

structure RegisterDto where
  email : String
  password : String
  firstName : String
  lastName : String
  phone : String

structure LoginDto where
  email : String
  password : String

structure SessionUser where
  id : Uuid
  name : String
  email : String

structure Session where
  user : SessionUser
  accessToken : String
  refreshToken : String

/-- The text, unless it counts as false. -/
def truthy (text : Option String) : Option String := text.filter (· ≠ "")

@[simp] theorem truthy_none : truthy none = none := rfl

theorem truthy_some {text : String} (h : text ≠ "") : truthy (some text) = some text := by
  simp [truthy, h]

namespace AuthService

variable (host : AuthHost) (ctx : AuthCtx)

/-- The session of a user, which replaces the one before. -/
def generateTokens (user : User) : Query Session := do
  let accessToken := host.signAsync ctx.now host.secret host.expiresIn user
  let refreshToken := host.signAsync ctx.now host.refreshSecret host.refreshExpiresIn user
  let hashedRefreshToken := host.hash ctx.tokenSalt refreshToken
  let _ ← AuthRepository.updateRefreshToken user.id (some hashedRefreshToken)
  pure { user := ⟨user.id, user.firstName, user.email⟩, accessToken, refreshToken }

/-- The row of a user that registers. -/
def newUser (dto : RegisterDto) : User where
  id := ctx.id
  email := dto.email
  passwordHash := host.hash ctx.passwordSalt dto.password
  firstName := dto.firstName
  lastName := dto.lastName
  phone := dto.phone
  role := .user
  refreshTokenHash := none
  status := .active
  lastLoginAt := none
  createdAt := ctx.now

def register (dto : RegisterDto) : Query Session := do
  let emailExists ← AuthRepository.findByEmail dto.email
  Prog.throwIf emailExists.isSome (.badRequest "Email already exists")
  let phoneExists ← AuthRepository.findByPhone dto.phone
  Prog.throwIf phoneExists.isSome (.badRequest "Phone already exists")
  let user ← AuthRepository.create (newUser host ctx dto)
  generateTokens host ctx user

def login (dto : LoginDto) : Query Session := do
  let user ← AuthRepository.findByEmail dto.email
  let user ← Prog.orThrow user (.unauthorized "Invalid email or password")
  Prog.throwIf (host.compare dto.password user.passwordHash = false)
    (.unauthorized "Invalid email or password")
  let _ ← AuthRepository.updateLastLogin ctx.now user.id
  generateTokens host ctx user

/-- `verifyAsync` says of a token that verifies whose it is. -/
def refresh (verifyAsync : String → Option Uuid) (refreshToken : Option String) :
    Query Session := do
  let refreshToken ← Prog.orThrow (truthy refreshToken) (.unauthorized "Refresh token missing")
  let sub ← Prog.orThrow (verifyAsync refreshToken) (.unauthorized "Invalid or expired refresh token")
  let dbUser ← AuthRepository.findById sub
  let dbUser ← Prog.orThrow dbUser (.unauthorized "User not found")
  let refreshTokenHash ← Prog.orThrow (truthy dbUser.refreshTokenHash)
    (.unauthorized "User not found")
  Prog.throwIf (host.compare refreshToken refreshTokenHash = false)
    (.unauthorized "Invalid refresh token")
  generateTokens host ctx dbUser

def logout (userId : Uuid) : Query String := do
  Prog.throwIf (userId = "") (.unauthorized "User id not found")
  let _ ← AuthRepository.update userId { refreshTokenHash := some none }
  pure "User logout successfully"

end AuthService

/-! ## What two tokens of a user have in common -/

namespace Jwt

theorem utf8_append (s t : String) : utf8 (s ++ t) = utf8 s ++ utf8 t := by
  simp [utf8]

theorem utf8_ofList (l : List Char) : utf8 (String.ofList l) = l.flatMap String.utf8EncodeChar := by
  simp [utf8, List.utf8Encode, List.data_toByteArray]

theorem length_le_utf8 (l : List Char) : l.length ≤ (utf8 (String.ofList l)).length := by
  rw [utf8_ofList]
  induction l with
  | nil => exact Nat.zero_le _
  | cons c l ih =>
      have hpos : 0 < c.utf8Size := c.utf8Size_pos
      simp only [List.flatMap_cons, List.length_append, List.length_cons,
        String.length_utf8EncodeChar]
      omega

theorem length_subject (user : User) : 27 ≤ (utf8 (subject user)).length := by
  have hsub : (utf8 "\x7b\"sub\":").length = 7 := by decide
  have hemail : (utf8 ",\"email\":").length = 9 := by decide
  have hrole : (utf8 ",\"role\":").length = 8 := by decide
  have hiat : (utf8 ",\"iat\":").length = 7 := by decide
  simp only [subject, utf8_append, List.length_append, hsub, hemail, hrole, hiat]
  omega

/-- The first 73 characters of a token of the user. -/
def stem (user : User) : String :=
  base64url header ++ "." ++ String.ofList (Base64Url.encode ((utf8 (subject user)).take 27))

theorem length_stem (user : User) : 72 ≤ (utf8 (stem user)).length := by
  have hheader : (utf8 (base64url header)).length = 36 := by decide
  have hdot : (utf8 ".").length = 1 := by decide
  have htake : ((utf8 (subject user)).take 27).length = 27 := by
    rw [List.length_take, Nat.min_eq_left (length_subject user)]
  have hcode : (Base64Url.encode ((utf8 (subject user)).take 27)).length = 36 := by
    rw [Base64Url.length_encode ⟨9, htake⟩, htake]
  have hle := length_le_utf8 (Base64Url.encode ((utf8 (subject user)).take 27))
  simp only [stem, utf8_append, List.length_append, hheader, hdot]
  omega

end Jwt

variable (host : AuthHost) (now : Time) (secret : String) (expiresIn : Int) (user : User)

theorem signAsync_stem : ∃ rest, host.signAsync now secret expiresIn user = Jwt.stem user ++ rest := by
  obtain ⟨tail, htail⟩ : ∃ tail,
      Jwt.payload user (now / 1000) (now / 1000 + expiresIn) = Jwt.subject user ++ tail := ⟨_, rfl⟩
  have htake : 3 ∣ ((utf8 (Jwt.subject user)).take 27).length := by
    rw [List.length_take, Nat.min_eq_left (Jwt.length_subject user)]
    exact ⟨9, rfl⟩
  have hcode : Base64Url.encode (utf8 (Jwt.subject user ++ tail)) =
      Base64Url.encode ((utf8 (Jwt.subject user)).take 27) ++
        Base64Url.encode ((utf8 (Jwt.subject user)).drop 27 ++ utf8 tail) := by
    rw [← Base64Url.encode_append _ htake, ← List.append_assoc, List.take_append_drop,
      Jwt.utf8_append]
  simp only [AuthHost.signAsync, htail, Jwt.base64url, hcode, String.ofList_append, Jwt.stem,
    String.append_assoc]
  exact ⟨_, rfl⟩

/-- All tokens of a user agree on their first 72 bytes. -/
theorem take_signAsync :
    (utf8 (host.signAsync now secret expiresIn user)).take 72 = (utf8 (Jwt.stem user)).take 72 := by
  obtain ⟨rest, hrest⟩ := signAsync_stem host now secret expiresIn user
  rw [hrest, Jwt.utf8_append, List.take_append_of_le_length (Jwt.length_stem user)]

theorem signAsync_ne_empty : host.signAsync now secret expiresIn user ≠ "" := by
  intro hempty
  have hlength := congrArg List.length (take_signAsync host now secret expiresIn user)
  rw [hempty, List.length_take_of_le (Jwt.length_stem user)] at hlength
  cases hlength

end Accounts

end ServiceHub
