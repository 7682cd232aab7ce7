import RealtimeChat.Basic

/-! Normalisation and validation of registration and login requests.

Sizes are byte counts, as `std::string::size` reports them, and letters, digits
and blanks are those of the C locale.
-/

set_option autoImplicit false

namespace RealtimeChat.Accounts

structure RegisterRequest where
  username : String
  email : String
  password : String
  deriving DecidableEq, Repr

structure LoginRequest where
  identifier : String
  password : String
  deriving DecidableEq, Repr

def isSpace (c : Char) : Bool := c = ' ' || (9 ≤ c.toNat && c.toNat ≤ 13)

def trim (value : String) : String :=
  String.ofList ((value.toList.dropWhile isSpace).reverse.dropWhile isSpace).reverse

theorem mem_trim {c : Char} {text : String} (member : c ∈ (trim text).toList) : c ∈ text.toList := by
  rw [trim, String.toList_ofList, List.mem_reverse] at member
  exact (List.dropWhile_sublist _).mem (List.mem_reverse.mp ((List.dropWhile_sublist _).mem member))

def toLower (value : String) : String := String.ofList (value.toList.map Char.toLower)

def isValidUsernameChar (c : Char) : Bool := c.isAlphanum || c = '_' || c = '.' || c = '-'

def invalid (message field : String) : AppException := ⟨.validation, message, "field=" ++ field⟩

def validateUsername (username : String) : Result Unit :=
  if username.utf8ByteSize < 3 ∨ 32 < username.utf8ByteSize then
    .error (invalid "Username must be between 3 and 32 characters" "username")
  else if !(username.toList.head?.any Char.isAlphanum) then
    .error (invalid "Username must start with a letter or digit" "username")
  else if !username.toList.all isValidUsernameChar then
    .error (invalid "Username may only contain letters, digits, '.', '_' and '-'" "username")
  else .ok ()

/-- The pattern `^[^\s@]+@[^\s@]+\.[^\s@]+$`: one at sign behind a non-empty name, and a
dot in the domain that is neither its first nor its last character. -/
def matchesEmailPattern (email : String) : Bool :=
  let text := email.toList
  let name := text.takeWhile (· ≠ '@')
  let domain := (text.dropWhile (· ≠ '@')).drop 1
  '@' ∈ text && text.all (fun c => !isSpace c) && !name.isEmpty && '@' ∉ domain &&
    '.' ∈ (domain.drop 1).dropLast

def validateEmail (email : String) : Result Unit :=
  if email.isEmpty || 254 < email.utf8ByteSize then
    .error (invalid "Email must be between 1 and 254 characters" "email")
  else if !matchesEmailPattern email then .error (invalid "Email format is invalid" "email")
  else .ok ()

def validatePassword (password : String) : Result Unit :=
  if password.utf8ByteSize < 8 then .error (invalid "Password must be at least 8 characters" "password")
  else if 72 < password.utf8ByteSize then .error (invalid "Password must be at most 72 bytes" "password")
  else .ok ()

def RegisterRequest.validateAndNormalize (request : RegisterRequest) : Result RegisterRequest := do
  let request := { request with username := trim request.username, email := toLower (trim request.email) }
  validateUsername request.username
  validateEmail request.email
  validatePassword request.password
  return request

def LoginRequest.validateAndNormalize (request : LoginRequest) : Result LoginRequest :=
  let request := { request with identifier := trim request.identifier }
  if request.identifier.isEmpty then .error (invalid "Login identifier is required" "identifier")
  else if request.password.isEmpty then .error (invalid "Password is required" "password")
  else .ok request

end RealtimeChat.Accounts
