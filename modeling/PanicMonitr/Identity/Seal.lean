import PanicMonitr.Foundation.Digits

/-!
# Sealing an identity

The two files of an identity, and the calls that re-seal it.  A sealed `secret.key` is
an ideal box: it opens under the key derived from the password, salt and costs it was
made with, and under no other.  A call of `_seal` may stop before, between or after its
two file replacements; each replacement is atomic.
-/

namespace PanicMonitr
namespace Identity

open Foundation

def SECRET_KEY_LENGTH : Nat := 32
def ARGON2_TIME_COST : Int := 3
def ARGON2_MEMORY_COST : Int := 65536
def ARGON2_PARALLELISM : Int := 4
def MIN_PASSWORD_LENGTH : Nat := 12

/-- What a `SecretBox` adds to its plaintext: a nonce and an authenticator. -/
def BOX_OVERHEAD : Nat := 24 + 16

/-!
## Files
-/

structure IdentityMeta where
  version : Int
  nodeId : String
  salt : String
  timeCost : Int
  memoryCost : Int
  parallelism : Int
  deriving DecidableEq

/-- The key-encryption key, named by what `hash_secret_raw` derives it from. -/
structure Kek where
  password : String
  salt : List UInt8
  timeCost : Int
  memoryCost : Int
  parallelism : Int
  deriving DecidableEq

inductive KeyFile where
  | plain (bytes : List UInt8)
  | box (kek : Kek) (plaintext : List UInt8)
  deriving DecidableEq

/-- `len(key_path.read_bytes())` -/
def KeyFile.length : KeyFile -> Nat
  | KeyFile.plain bytes => bytes.length
  | KeyFile.box _ plaintext => plaintext.length + BOX_OVERHEAD

/-- `SecretBox(kek).decrypt(data)`; `none` stands for `CryptoError`. -/
def KeyFile.decrypt (kek : Kek) : KeyFile -> Option (List UInt8)
  | KeyFile.plain _ => none
  | KeyFile.box kek' plaintext => if kek' = kek then some plaintext else none

/-- `secret.key` and `secret.meta` at their paths. -/
structure Disk where
  keyPath : String
  metaPath : String
  key : Option KeyFile
  metadata : Option IdentityMeta
  deriving DecidableEq

def isSealed (disk : Disk) : Bool :=
  disk.key.isSome && disk.metadata.isSome

def isRaw (disk : Disk) : Bool :=
  match disk.metadata, disk.key with
  | none, some key => decide (key.length = SECRET_KEY_LENGTH)
  | _, _ => false

def deriveKek (password : String) (salt : List UInt8) (metadata : IdentityMeta) : Kek :=
  { password := password
    salt := salt
    timeCost := metadata.timeCost
    memoryCost := metadata.memoryCost
    parallelism := metadata.parallelism }

/-!
## Calls

`deriveNodeId` is the public key of a seed, in hexadecimal.
-/

inductive IdentityError where
  | fileNotFound (message : String)
  | valueError (message : String)
  deriving DecidableEq

def shortPassword (subject : String) : IdentityError :=
  IdentityError.valueError
    (subject ++ " must be at least " ++ toString MIN_PASSWORD_LENGTH ++ " characters")

def notASeed (length : Nat) : IdentityError :=
  IdentityError.valueError
    ("secret.key is " ++ toString length ++ " bytes -- not an unsealed ed25519 seed")

variable (deriveNodeId : List UInt8 -> String)

/-- `unlock_identity(password)`: the seed and the metadata. -/
def unlockIdentity (password : String) (disk : Disk) :
    Except IdentityError (List UInt8 × IdentityMeta) :=
  match disk.key with
  | none => Except.error (IdentityError.fileNotFound ("Identity not found at " ++ disk.keyPath))
  | some key =>
      match disk.metadata with
      | none =>
          Except.error (IdentityError.fileNotFound
            (disk.metaPath ++ " missing -- cannot unlock a sealed key without its salt"))
      | some metadata =>
          match fromhex metadata.salt with
          | none =>
              Except.error (IdentityError.valueError
                "non-hexadecimal number found in fromhex() arg")
          | some salt =>
              match key.decrypt (deriveKek password salt metadata) with
              | none =>
                  Except.error (IdentityError.valueError
                    "wrong password or corrupted secret.key")
              | some seed =>
                  if seed.length ≠ SECRET_KEY_LENGTH then
                    Except.error (IdentityError.valueError
                      ("decrypted seed is " ++ toString seed.length ++
                        " bytes (expected " ++ toString SECRET_KEY_LENGTH ++ ")"))
                  else if deriveNodeId seed ≠ metadata.nodeId then
                    Except.error (IdentityError.valueError
                      ("decrypted seed does not derive the NodeID recorded in " ++
                        "secret.meta -- secret.key or secret.meta has been tampered with"))
                  else
                    Except.ok (seed, metadata)

/-- Where a call of `_seal` stops, by its end, an exception or a crash. -/
inductive SealStop where
  | beforeKey
  | betweenReplacements
  | afterMeta
  deriving DecidableEq

/-- The metadata `_seal` writes. -/
def sealMeta (seed salt : List UInt8) : IdentityMeta :=
  { version := 1
    nodeId := deriveNodeId seed
    salt := hex salt
    timeCost := ARGON2_TIME_COST
    memoryCost := ARGON2_MEMORY_COST
    parallelism := ARGON2_PARALLELISM }

/-- `_seal(seed, password)` with the random salt it drew: the key file, then the metadata. -/
def sealSeed (seed : List UInt8) (password : String) (salt : List UInt8) (stop : SealStop)
    (disk : Disk) : Disk :=
  let metadata := sealMeta deriveNodeId seed salt
  let kek := deriveKek password salt metadata
  match stop with
  | SealStop.beforeKey => disk
  | SealStop.betweenReplacements => { disk with key := some (KeyFile.box kek seed) }
  | SealStop.afterMeta =>
      { disk with key := some (KeyFile.box kek seed), metadata := some metadata }

/-- `seal_existing_identity(password)`: the disk it leaves, or the error it raised first. -/
def sealExistingIdentity (password : String) (salt : List UInt8) (stop : SealStop)
    (disk : Disk) : Except IdentityError Disk :=
  if password.length < MIN_PASSWORD_LENGTH then Except.error (shortPassword "Password")
  else
    match disk.key with
    | none => Except.error (IdentityError.fileNotFound disk.keyPath)
    | some (KeyFile.plain raw) =>
        if raw.length ≠ SECRET_KEY_LENGTH then Except.error (notASeed raw.length)
        else Except.ok (sealSeed deriveNodeId raw password salt stop disk)
    | some (KeyFile.box kek plaintext) =>
        -- longer than a seed by the overhead alone
        Except.error (notASeed (KeyFile.box kek plaintext).length)

/-- `reset_password(old_password, new_password)` -/
def resetPassword (oldPassword newPassword : String) (salt : List UInt8)
    (stop : SealStop) (disk : Disk) : Except IdentityError Disk :=
  if newPassword.length < MIN_PASSWORD_LENGTH then
    Except.error (shortPassword "New password")
  else
    match unlockIdentity deriveNodeId oldPassword disk with
    | Except.error e => Except.error e
    | Except.ok (seed, _) =>
        Except.ok (sealSeed deriveNodeId seed newPassword salt stop disk)

end Identity
end PanicMonitr
