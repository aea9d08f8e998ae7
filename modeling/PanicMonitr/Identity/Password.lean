import PanicMonitr.Foundation.Lines
import PanicMonitr.Identity.Seal

/-!
# Where the password comes from

The providers of the identity password and the choice among them.  `password.enc` is an ideal
box: it opens under the machine id and the salt it was made with, and under no others, and what
an interrupted write leaves of it never opens.
-/

namespace PanicMonitr
namespace Identity

open Foundation

/-- `_SALT_LEN` -/
def PASSWORD_SALT_LENGTH : Nat := 16

/-- Argon2 refuses a salt that is shorter. -/
def ARGON2_MIN_SALT_LENGTH : Nat := 8

inductive PasswordError where
  | runtime (message : String)
  | value (message : String)
  /-- Argon2's `HashingError`, which is no `RuntimeError`. -/
  | hashing
  deriving DecidableEq

/-- `if value` for a text that may be missing. -/
def given : Option String -> Option String
  | some "" => none
  | value => value

/-!
## The encrypted file
-/

/-- `password.enc`, whole or as an interrupted write left it. -/
inductive EncFile where
  | cut
  | box (machineId : String) (salt : List UInt8) (password : String)
  deriving DecidableEq

/-- `password.salt` and `password.enc` in the config directory. -/
structure Vault where
  salt : Option (List UInt8)
  enc : Option EncFile
  deriving DecidableEq

/-- `_machine_id()`, from the texts of the two files that may hold it. -/
def machineId : List (Option String) -> Except PasswordError String
  | [] =>
      Except.error (PasswordError.runtime
        ("no machine-id found (/etc/machine-id missing) — the machine-id backend " ++
          "can't run here; use --password-from systemd-creds|keyring|env"))
  | none :: others => machineId others
  | some text :: others =>
      if strip text.toList = [] then machineId others
      else Except.ok (String.ofList (strip text.toList))

/-- `_derive_key(salt)`, named by what it is derived from. -/
def derivePasswordKey (machineIds : List (Option String)) (salt : List UInt8) :
    Except PasswordError (String × List UInt8) :=
  match machineId machineIds with
  | Except.error e => Except.error e
  | Except.ok secret =>
      if salt.length < ARGON2_MIN_SALT_LENGTH then Except.error PasswordError.hashing
      else Except.ok (secret, salt)

/-- Where `seal_password_to_disk` stops: `inSalt` with the first bytes of the salt written. -/
inductive VaultStop where
  | beforeSalt
  | inSalt (n : Nat)
  | inEnc
  | done
  deriving DecidableEq

/-- `seal_password_to_disk(password)` with the random salt it drew. -/
def sealPasswordToDisk (machineIds : List (Option String)) (password : String)
    (salt : List UInt8) (stop : VaultStop) (vault : Vault) : Except PasswordError Vault :=
  match derivePasswordKey machineIds salt with
  | Except.error e => Except.error e
  | Except.ok (secret, salt) =>
      match stop with
      | VaultStop.beforeSalt => Except.ok vault
      | VaultStop.inSalt n => Except.ok { vault with salt := some (salt.take n) }
      | VaultStop.inEnc => Except.ok { salt := some salt, enc := some EncFile.cut }
      | VaultStop.done =>
          Except.ok { salt := some salt, enc := some (EncFile.box secret salt password) }

def notFoundAt (configDir : String) : PasswordError :=
  PasswordError.runtime
    ("encrypted password not found at " ++ configDir ++ "/password.enc — run " ++
      "'panic-monitor --install-service --password-from machine-id'")

def decryptFailed : PasswordError :=
  PasswordError.runtime
    ("failed to decrypt password — has /etc/machine-id changed? " ++
      "Re-run 'panic-monitor --install-service --password-from machine-id " ++
      "--rotate-password'")

/-- `MachineIdProvider.get()` -/
def Vault.get (configDir : String) (machineIds : List (Option String)) (vault : Vault) :
    Except PasswordError String :=
  match vault.enc, vault.salt with
  | some enc, some salt =>
      match derivePasswordKey machineIds salt with
      | Except.error e => Except.error e
      | Except.ok key =>
          match enc with
          | EncFile.cut => Except.error decryptFailed
          | EncFile.box machineId salt password =>
              if (machineId, salt) = key then Except.ok password else Except.error decryptFailed
  | _, _ => Except.error (notFoundAt configDir)

/-!
## The providers
-/

inductive Backend where
  | systemdCreds
  | machineId
  | keyring
  | stdin
  | env
  | pinentry
  deriving DecidableEq

/-- `_BACKENDS` -/
def backendOf : String -> Option Backend
  | "systemd-creds" => some Backend.systemdCreds
  | "machine-id" => some Backend.machineId
  | "keyring" => some Backend.keyring
  | "stdin" => some Backend.stdin
  | "env" => some Backend.env
  | "pinentry" => some Backend.pinentry
  | _ => none

/--
What a command of `main.py` finds around it.  `credential` is the text of the credential file
in `CREDENTIALS_DIRECTORY`, `keyring` is missing where the package is, and `getpass` gives
what is typed at the provider's prompt and at the one of `_prompt_password`, if anything.
-/
structure Terminal where
  explicit : Option String
  passwordFrom : Option String
  credentialsDirectory : Option String
  credential : Option String
  envPassword : Option String
  keyring : Option (Option String)
  euid : Nat
  stdinLine : String
  isatty : Bool
  pinentry : Option String
  prompted : Option String

/-- `text.rstrip("\n")` -/
def rstripNewlines (text : String) : String :=
  String.ofList (text.toList.rdropWhile (fun c => decide (c = '\n')))

namespace Terminal

def stdinProvider (t : Terminal) : Except PasswordError String :=
  if t.stdinLine = "" then Except.error (PasswordError.runtime "no password on stdin")
  else Except.ok (rstripNewlines t.stdinLine)

def envVarProvider (t : Terminal) : Except PasswordError String :=
  match given t.envPassword with
  | none => Except.error (PasswordError.runtime "PANIC_MONITOR_PASSWORD is not set")
  | some val => Except.ok val

def keyringProvider (t : Terminal) : Except PasswordError String :=
  match t.keyring with
  | none => Except.error (PasswordError.runtime "keyring package not installed")
  | some entry =>
      match given entry with
      | none =>
          Except.error (PasswordError.runtime
            ("no keyring entry for service=panic-monitor user=" ++ toString t.euid))
      | some pw => Except.ok pw

def systemdCredsProvider (t : Terminal) : Except PasswordError String :=
  match given t.credentialsDirectory with
  | none =>
      Except.error (PasswordError.runtime
        ("$CREDENTIALS_DIRECTORY not set — unit needs " ++
          "LoadCredentialEncrypted=panic-monitor-password:..."))
  | some credDir =>
      match t.credential with
      | none =>
          Except.error (PasswordError.runtime
            ("credential file missing at " ++ credDir ++ "/panic-monitor-password"))
      | some text => Except.ok (rstripNewlines text)

def pinentryProvider (t : Terminal) : Except PasswordError String :=
  match t.pinentry with
  | none => Except.error (PasswordError.runtime "password prompt aborted")
  | some pw => Except.ok pw

def namedBackend (problem name : String) : Except PasswordError Backend :=
  match backendOf name with
  | none => Except.error (PasswordError.value (problem ++ ": " ++ name))
  | some backend => Except.ok backend

/-- `select_backend(explicit)`; `present` tells whether `password.enc` exists. -/
def selectBackend (t : Terminal) (present : Bool) : Except PasswordError Backend :=
  match given t.explicit with
  | some explicit => namedBackend "unknown password backend" explicit
  | none =>
      match given t.passwordFrom with
      | some env =>
          namedBackend "unknown password backend in PANIC_MONITOR_PASSWORD_FROM" env
      | none =>
          if (given t.credentialsDirectory).isSome && t.credential.isSome then
            Except.ok Backend.systemdCreds
          else if present then Except.ok Backend.machineId
          else if (given t.envPassword).isSome then Except.ok Backend.env
          else if t.isatty then Except.ok Backend.pinentry
          else Except.ok Backend.stdin

/-- `get_password(explicit)`; `opened` is what the provider for the encrypted file gets. -/
def getPassword (t : Terminal) (present : Bool) (opened : Except PasswordError String) :
    Except PasswordError String :=
  match t.selectBackend present with
  | Except.error e => Except.error e
  | Except.ok Backend.systemdCreds => t.systemdCredsProvider
  | Except.ok Backend.machineId => opened
  | Except.ok Backend.keyring => t.keyringProvider
  | Except.ok Backend.stdin => t.stdinProvider
  | Except.ok Backend.env => t.envVarProvider
  | Except.ok Backend.pinentry => t.pinentryProvider

/-- How a command of `main.py` ends early. -/
inductive Exit where
  | exit (code : Nat) (message : String)
  | raised (e : PasswordError)
  deriving DecidableEq

/-- `_prompt_password(prompt)` -/
def promptPassword (t : Terminal) (present : Bool) (opened : Except PasswordError String) :
    Except Exit String :=
  match t.getPassword present opened with
  | Except.ok password => Except.ok password
  | Except.error (PasswordError.runtime message) =>
      if t.isatty then
        match t.prompted with
        | some password => Except.ok password
        | none => Except.error (Exit.exit 1 "\nAborted.")
      else Except.error (Exit.exit 1 ("Password error: " ++ message))
  | Except.error e => Except.error (Exit.raised e)

end Terminal

/--
`_prompt_new_password(label)`: the first pair that is long enough and confirmed; the list ends
where the prompt is aborted.
-/
def promptNewPassword : List (String × String) -> Option String
  | [] => none
  | (pw1, pw2) :: more =>
      if pw1.length < MIN_PASSWORD_LENGTH ∨ pw1 ≠ pw2 then promptNewPassword more
      else some pw1

theorem promptNewPassword_length {typed : List (String × String)} {password : String}
    (h : promptNewPassword typed = some password) : MIN_PASSWORD_LENGTH <= password.length := by
  induction typed with
  | nil => cases h
  | cons pair more ih =>
      rcases pair with ⟨pw1, pw2⟩
      unfold promptNewPassword at h
      split at h
      · exact ih h
      · rename_i hlong
        cases h
        exact Nat.le_of_not_lt (fun hshort => hlong (Or.inl hshort))

end Identity
end PanicMonitr
