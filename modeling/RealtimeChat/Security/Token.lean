import RealtimeChat.Basic
import Mathlib.Order.Defs.LinearOrder
import Mathlib.Data.Int.Order.Basic

/-! Issuing and verifying JSON web tokens.

Signing, decoding and hashing are taken from libraries and stay abstract: a
`Primitives` value supplies them together with the assumptions made about them.
Everything the token service itself decides is a definition over it.
-/

set_option autoImplicit false

namespace RealtimeChat.Security

inductive TokenType where
  | access
  | refresh
  deriving DecidableEq, Repr

def TokenType.toString : TokenType → String
  | .access => "access"
  | .refresh => "refresh"

structure Payload where
  issuer : String
  subject : String
  id : Option String
  username : Option String
  type : Option String
  issuedAt : TimePoint
  expiresAt : TimePoint
  deriving DecidableEq, Repr

structure TokenClaims where
  userId : UserId
  username : String
  type : TokenType
  issuedAt : TimePoint
  expiresAt : TimePoint
  deriving DecidableEq, Repr

structure TokenPair (Token : Type) where
  accessToken : Token
  refreshToken : Token
  accessExpiresInSeconds : Int
  refreshExpiresInSeconds : Int
  deriving DecidableEq, Repr

structure Options where
  issuer : String := "realtime-chat"
  accessTtlSeconds : Int := 900
  refreshTtlSeconds : Int := 1209600
  deriving DecidableEq, Repr

/-- The library functions behind the token service. `decode` is `jwt::decode` with
the verifier for signature, issuer and expiry; its error is the text the library
throws. A signed token determines its payload, and SHA-256 has no collision. -/
structure Primitives (Token Hash : Type) where
  options : Options
  sign : Payload → Token
  decode : TimePoint → Token → Except String Payload
  sha256Hex : Token → Hash
  decode_sign : ∀ now payload, payload.issuer = options.issuer → payload.issuedAt ≤ now →
    now ≤ payload.expiresAt → decode now (sign payload) = .ok payload
  sign_injective : Function.Injective sign
  sha256Hex_injective : Function.Injective sha256Hex

/-- `std::from_chars` over the whole text, in the range of a signed 64-bit integer. -/
def parseSubject (subject : String) : Option Int :=
  let digits (text : List Char) : Option Nat :=
    if text.isEmpty || !text.all Char.isDigit then none
    else some (text.foldl (fun value digit => 10 * value + (digit.toNat - '0'.toNat)) 0)
  let value := match subject.toList with
    | '-' :: text => (digits text).map fun value => -Int.ofNat value
    | text => (digits text).map Int.ofNat
  value.filter fun value => -9223372036854775808 ≤ value && value ≤ 9223372036854775807

variable {Token Hash : Type}

def ttlFor (options : Options) : TokenType → Int
  | .access => options.accessTtlSeconds
  | .refresh => options.refreshTtlSeconds

/-- What one call of `issue` draws: its random token id and the time it reads. -/
structure Draw where
  id : String
  now : TimePoint
  deriving DecidableEq, Repr

def payloadFor (options : Options) (draw : Draw) (userId : UserId) (username : String)
    (type : TokenType) : Payload where
  issuer := options.issuer
  subject := toString userId
  id := some draw.id
  username := some username
  type := some type.toString
  issuedAt := draw.now
  expiresAt := draw.now + ttlFor options type

def issue (primitives : Primitives Token Hash) (draw : Draw) (userId : UserId) (username : String)
    (type : TokenType) : Token :=
  primitives.sign (payloadFor primitives.options draw userId username type)

def issuePair (primitives : Primitives Token Hash) (access refresh : Draw) (userId : UserId)
    (username : String) : TokenPair Token where
  accessToken := issue primitives access userId username .access
  refreshToken := issue primitives refresh userId username .refresh
  accessExpiresInSeconds := primitives.options.accessTtlSeconds
  refreshExpiresInSeconds := primitives.options.refreshTtlSeconds

def verify (primitives : Primitives Token Hash) (now : TimePoint) (token : Token)
    (expected : TokenType) : Result TokenClaims :=
  match primitives.decode now token with
  | .error what => .error ⟨.authentication, "Invalid or expired token", what⟩
  | .ok payload =>
    match payload.type with
    | none => .error ⟨.authentication, "Token missing type claim", ""⟩
    | some type =>
      -- An access token is signed with the same key as a refresh token; only the claim tells them apart.
      if type ≠ expected.toString then .error ⟨.authentication, "Token has unexpected type", ""⟩
      else match parseSubject payload.subject with
        | none => .error ⟨.authentication, "Malformed token subject", ""⟩
        | some userId => .ok ⟨userId, payload.username.getD "", expected, payload.issuedAt, payload.expiresAt⟩

theorem issue_id {primitives : Primitives Token Hash} {first second : Draw} {user other : UserId}
    {name otherName : String} {type otherType : TokenType}
    (same : issue primitives first user name type = issue primitives second other otherName otherType) :
    first.id = second.id := by
  have payloads := primitives.sign_injective same
  exact Option.some.inj (congrArg Payload.id payloads)

/-- An unforgeable token that carries its payload in the clear, with the verifier's own
checks: the smallest instance of the library functions. -/
def transparent (options : Options) : Primitives Payload Payload where
  options := options
  sign := id
  decode now payload :=
    if payload.issuer ≠ options.issuer then .error "claim issuer does not match expected"
    else if now < payload.issuedAt || payload.expiresAt < now then .error "token expired"
    else .ok payload
  sha256Hex := id
  decode_sign := by
    intro now payload issuer issued expires
    simp [issuer, not_lt.mpr issued, not_lt.mpr expires]
  sign_injective := Function.injective_id
  sha256Hex_injective := Function.injective_id

end RealtimeChat.Security
