import SignOn.Crypto.Bcrypt
/-!
# Passwords

A password is stored as a hash, at a cost and with a salt of its own.
What is longer than the 72 bytes that the hash takes in is refused when a
password is set. A stored text that is no hash verifies nothing.
-/

namespace SignOn

namespace Password

/-- The most bytes that a password may have. -/
def maxBytes : Nat := 72

/-- Why a password cannot be hashed. -/
inductive HashError
  | tooLong
  | cost (cause : Bcrypt.CostNotAllowed)
deriving Repr, DecidableEq

/-- The text of an error. -/
def HashError.message : HashError → String
  | .tooLong => s!"password exceeds {maxBytes} bytes"
  | .cost cause => "hashing failed: " ++ cause.message

/-- The hash of a password. -/
def hash (cost : UInt32) (salt : Bcrypt.Salt) (password : String) : Except HashError String :=
  if maxBytes < Utf8.size password then .error .tooLong
  else
    match Bcrypt.hash cost.toNat salt password with
    | .ok h => .ok h
    | .error e => .error (.cost e)

/-- Whether a password is the one that a stored hash was made of. -/
def verify (password hash : String) : Bool :=
  Bcrypt.verify password hash

end Password

end SignOn
