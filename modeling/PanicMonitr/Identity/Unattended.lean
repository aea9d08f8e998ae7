import PanicMonitr.Foundation.Machine
import PanicMonitr.Identity.Password
import PanicMonitr.Identity.Recovery

/-!
# Starting unattended

An installation is the identity, the encrypted password beside it, the machine it is on and
whether the unit is there.  The commands that write them may stop at each of their writes.
Over it a plan says what an installation is good for: which password seals the identity, which
one is stored, and for which machine.  The installation refines the plan.
-/

namespace PanicMonitr
namespace Identity

open Foundation

/-!
## Installations
-/

structure Installation where
  configDir : String
  disk : Disk
  vault : Vault
  machineIds : List (Option String)
  service : Bool

/-- The commands, with what is typed at their prompts and what they draw at random. -/
inductive Command where
  /-- `--init` -/
  | init (typed : List (String × String)) (seed salt : List UInt8) (stop : SealStop)
  /-- `--reset-password` -/
  | resetPassword (t : Terminal) (typed : List (String × String)) (salt : List UInt8)
      (stop : SealStop)
  /-- `--install-service --password-from machine-id`, which may stop before the unit is there. -/
  | installService (force rotate : Bool) (typed : Option String) (salt : List UInt8)
      (stop : VaultStop) (finishes : Bool)
  /-- The files come to a machine with other ids. -/
  | move (machineIds : List (Option String))

variable (deriveNodeId : List UInt8 -> String)

/-- `init_sealed_identity(password)` with the seed it drew. -/
def initSealedIdentity (password : String) (seed salt : List UInt8) (stop : SealStop)
    (disk : Disk) : Except IdentityError Disk :=
  if password.length < MIN_PASSWORD_LENGTH then Except.error (shortPassword "Password")
  else Except.ok (sealSeed deriveNodeId seed password salt stop disk)

namespace Installation

def opened (inst : Installation) : Except PasswordError String :=
  inst.vault.get inst.configDir inst.machineIds

def written (inst : Installation) : Except IdentityError Disk -> Installation
  | Except.ok disk => { inst with disk := disk }
  | Except.error _ => inst

def init (inst : Installation) (typed : List (String × String)) (seed salt : List UInt8)
    (stop : SealStop) : Installation :=
  if isSealed inst.disk then inst
  else
    match promptNewPassword typed with
    | none => inst
    | some password =>
        if isRaw inst.disk then
          inst.written (sealExistingIdentity deriveNodeId password salt stop inst.disk)
        else inst.written (initSealedIdentity deriveNodeId password seed salt stop inst.disk)

def resetPassword (inst : Installation) (t : Terminal) (typed : List (String × String))
    (salt : List UInt8) (stop : SealStop) : Installation :=
  if isSealed inst.disk then
    match t.promptPassword inst.vault.enc.isSome inst.opened with
    | Except.error _ => inst
    | Except.ok old =>
        -- the old password is tried before a new one is asked for
        match unlockIdentity deriveNodeId old inst.disk with
        | Except.error _ => inst
        | Except.ok _ =>
            match promptNewPassword typed with
            | none => inst
            | some new =>
                inst.written (Identity.resetPassword deriveNodeId old new salt stop inst.disk)
  else inst

/-- `install_service(password_backend="machine-id")`; the unit is written behind the password. -/
def installService (inst : Installation) (force rotate : Bool) (typed : Option String)
    (salt : List UInt8) (stop : VaultStop) (finishes : Bool) : Installation :=
  if inst.service && !force && !rotate then inst
  else if inst.vault.enc.isNone || rotate then
    match typed with
    | none => inst
    | some password =>
        match sealPasswordToDisk inst.machineIds password salt stop inst.vault with
        | Except.error _ => inst
        | Except.ok vault =>
            { inst with
              vault := vault
              service := inst.service || (decide (stop = VaultStop.done) && finishes) }
  else { inst with service := inst.service || finishes }

def step (inst : Installation) : Command -> Installation
  | Command.init typed seed salt stop => inst.init deriveNodeId typed seed salt stop
  | Command.resetPassword t typed salt stop => inst.resetPassword deriveNodeId t typed salt stop
  | Command.installService force rotate typed salt stop finishes =>
      inst.installService force rotate typed salt stop finishes
  | Command.move machineIds => { inst with machineIds := machineIds }

/-- `_unlock_or_exit`, the start of the daemon. -/
def unlockOrExit (inst : Installation) (t : Terminal) :
    Except Terminal.Exit (List UInt8 × String) :=
  if isSealed inst.disk then
    match t.promptPassword inst.vault.enc.isSome inst.opened with
    | Except.error e => Except.error e
    | Except.ok password =>
        match unlockIdentity deriveNodeId password inst.disk with
        | Except.error (IdentityError.valueError message) =>
            Except.error (Terminal.Exit.exit 1 ("Unlock failed: " ++ message))
        | Except.error (IdentityError.fileNotFound message) =>
            Except.error (Terminal.Exit.exit 1 ("Unlock failed: " ++ message))
        | Except.ok (seed, metadata) => Except.ok (seed, metadata.nodeId)
  else
    Except.error (Terminal.Exit.exit 1
      "Identity is not sealed. Run `--init` first to create or seal your secret.key.")

end Installation

def installations (inst : Installation) : Machine Installation Command where
  start s := s = inst
  step := Installation.step deriveNodeId

/-- How the unit runs the daemon, whatever else is in its environment. -/
structure Unattended (t : Terminal) : Prop where
  explicit : t.explicit = some "machine-id"
  isatty : t.isatty = false

/-- What a command draws at random is not what the files already hold. -/
def Fresh (inst : Installation) : Command -> Prop
  | Command.init _ seed _ _ => seed.length = SECRET_KEY_LENGTH
  | Command.resetPassword _ _ salt _ =>
      forall metadata, inst.disk.metadata = some metadata -> fromhex metadata.salt ≠ some salt
  | Command.installService _ _ _ salt _ _ =>
      salt.length = PASSWORD_SALT_LENGTH ∧
        forall machineId salt' password,
          inst.vault.enc = some (EncFile.box machineId salt' password) -> salt' ≠ salt
  | Command.move _ => True

/-!
## Plans
-/

/-- The identity: `torn` when its two files do not belong together. -/
inductive Key where
  | absent
  | raw (seed : List UInt8)
  | sealed (seed : List UInt8) (password : String)
  | torn

/-- The stored password: `torn` when it is there and does not open, `short` with its salt. -/
inductive Stored where
  | nothing
  | kept (machine password : String)
  | torn (short : Bool)

structure Plan where
  configDir : String
  key : Key
  stored : Stored
  machineIds : List (Option String)
  service : Bool

/-- A seed is sealed, until the stop. -/
def Key.after (before between : Key) (seed : List UInt8) (password : String) : SealStop -> Key
  | SealStop.beforeKey => before
  | SealStop.betweenReplacements => between
  | SealStop.afterMeta => sealed seed password

namespace Stored

def present : Stored -> Bool
  | nothing => false
  | _ => true

def get (configDir : String) (machineIds : List (Option String)) :
    Stored -> Except PasswordError String
  | nothing => Except.error (notFoundAt configDir)
  | kept machine password =>
      match machineId machineIds with
      | Except.error e => Except.error e
      | Except.ok here =>
          if machine = here then Except.ok password else Except.error decryptFailed
  | torn short =>
      match machineId machineIds with
      | Except.error e => Except.error e
      | Except.ok _ => Except.error (if short then PasswordError.hashing else decryptFailed)

/-- A password is stored, until the stop. -/
def after (stored : Stored) (machine password : String) : VaultStop -> Stored
  | VaultStop.beforeSalt => stored
  | VaultStop.inSalt n =>
      if stored.present then torn (decide (n < ARGON2_MIN_SALT_LENGTH)) else nothing
  | VaultStop.inEnc => torn false
  | VaultStop.done => kept machine password

end Stored

namespace Plan

def opened (plan : Plan) : Except PasswordError String :=
  plan.stored.get plan.configDir plan.machineIds

def init (plan : Plan) (typed : List (String × String)) (seed : List UInt8) (stop : SealStop) :
    Plan :=
  match plan.key, promptNewPassword typed with
  | Key.absent, some password =>
      { plan with key := Key.after Key.absent Key.absent seed password stop }
  | Key.raw seed', some password =>
      { plan with key := Key.after (Key.raw seed') Key.absent seed' password stop }
  | _, _ => plan

def resetPassword (plan : Plan) (t : Terminal) (typed : List (String × String))
    (stop : SealStop) : Plan :=
  match plan.key, t.promptPassword plan.stored.present plan.opened, promptNewPassword typed with
  | Key.sealed seed password, Except.ok old, some new =>
      if old = password then
        { plan with key := Key.after (Key.sealed seed password) Key.torn seed new stop }
      else plan
  | _, _, _ => plan

def installService (plan : Plan) (force rotate : Bool) (typed : Option String)
    (stop : VaultStop) (finishes : Bool) : Plan :=
  if plan.service && !force && !rotate then plan
  else if !plan.stored.present || rotate then
    match typed, machineId plan.machineIds with
    | some password, Except.ok machine =>
        { plan with
          stored := plan.stored.after machine password stop
          service := plan.service || (decide (stop = VaultStop.done) && finishes) }
    | _, _ => plan
  else { plan with service := plan.service || finishes }

def step (plan : Plan) : Command -> Plan
  | Command.init typed seed _ stop => plan.init typed seed stop
  | Command.resetPassword t typed _ stop => plan.resetPassword t typed stop
  | Command.installService force rotate typed _ stop finishes =>
      plan.installService force rotate typed stop finishes
  | Command.move machineIds => { plan with machineIds := machineIds }

/-- The seed the daemon comes up with by itself. -/
def starts (plan : Plan) : Option (List UInt8) :=
  match plan.key, plan.opened with
  | Key.sealed seed password, Except.ok opened => if opened = password then some seed else none
  | _, _ => none

end Plan

def plans (plan : Plan) : Machine Plan Command where
  start s := s = plan
  step := Plan.step

/-!
## What a plan says of the files
-/

def Key.Means (disk : Disk) : Key -> Prop
  | absent => disk.metadata = none ∧ isRaw disk = false
  | raw seed =>
      disk.metadata = none ∧ disk.key = some (KeyFile.plain seed) ∧
        seed.length = SECRET_KEY_LENGTH
  | sealed seed password =>
      exists metadata, unlockIdentity deriveNodeId password disk = Except.ok (seed, metadata)
  | torn =>
      isSealed disk = true ∧
        forall password result, unlockIdentity deriveNodeId password disk ≠ Except.ok result

def Stored.Means (vault : Vault) : Stored -> Prop
  | nothing => vault.enc = none
  | kept machine password =>
      exists salt, vault.salt = some salt ∧ vault.enc = some (EncFile.box machine salt password) ∧
        salt.length = PASSWORD_SALT_LENGTH
  | torn short =>
      exists salt enc, vault.salt = some salt ∧ vault.enc = some enc ∧
        short = decide (salt.length < ARGON2_MIN_SALT_LENGTH) ∧
        forall machine salt' password, enc = EncFile.box machine salt' password ->
          salt'.length = PASSWORD_SALT_LENGTH ∧ salt' ≠ salt

structure Plan.Means (inst : Installation) (plan : Plan) : Prop where
  configDir : plan.configDir = inst.configDir
  key : plan.key.Means deriveNodeId inst.disk
  stored : plan.stored.Means inst.vault
  machineIds : plan.machineIds = inst.machineIds
  service : plan.service = inst.service

/-!
## Reading the two levels alike
-/

section Reading

variable {deriveNodeId} {inst : Installation} {plan : Plan}

theorem unlockIdentity_password {password password' : String} {disk : Disk}
    {seed seed' : List UInt8} {metadata metadata' : IdentityMeta}
    (h : unlockIdentity deriveNodeId password disk = Except.ok (seed, metadata))
    (h' : unlockIdentity deriveNodeId password' disk = Except.ok (seed', metadata')) :
    password = password' := by
  rcases (unlockIdentity_ok deriveNodeId).mp h with ⟨salt, hmeta, hsalt, hkey, _, _⟩
  rcases (unlockIdentity_ok deriveNodeId).mp h' with ⟨salt', hmeta', hsalt', hkey', _, _⟩
  rw [hmeta] at hmeta'
  cases hmeta'
  rw [hkey] at hkey'
  injection hkey' with hbox
  injection hbox with hkek _
  exact congrArg Kek.password hkek

theorem isSealed_of_unlock {password : String} {disk : Disk} {result : List UInt8 × IdentityMeta}
    (h : unlockIdentity deriveNodeId password disk = Except.ok result) : isSealed disk = true := by
  rcases (unlockIdentity_ok deriveNodeId).mp h with ⟨_, hmeta, _, hkey, _, _⟩
  unfold isSealed
  rw [hmeta, hkey]
  rfl

theorem isSealed_of_metadata {disk : Disk} (h : disk.metadata = none) :
    isSealed disk = false := by
  unfold isSealed
  rw [h]
  exact Bool.and_false _

theorem Key.Means.isSealed {key : Key} {disk : Disk} (h : key.Means deriveNodeId disk) :
    isSealed disk = true <->
      (exists seed password, key = Key.sealed seed password) ∨ key = Key.torn := by
  cases key with
  | absent =>
      rw [isSealed_of_metadata h.left]
      simp
  | raw seed =>
      rw [isSealed_of_metadata h.left]
      simp
  | sealed seed password =>
      rcases h with ⟨metadata, hopens⟩
      exact iff_of_true (isSealed_of_unlock hopens) (Or.inl ⟨seed, password, rfl⟩)
  | torn => exact iff_of_true h.left (Or.inr rfl)

theorem Stored.Means.present {stored : Stored} {vault : Vault} (h : stored.Means vault) :
    vault.enc.isSome = stored.present := by
  cases stored with
  | nothing =>
      rw [show vault.enc = none from h]
      rfl
  | kept machine password =>
      rcases h with ⟨_, _, henc, _⟩
      rw [henc]
      rfl
  | torn short =>
      rcases h with ⟨_, _, _, henc, _⟩
      rw [henc]
      rfl

theorem Stored.Means.get {stored : Stored} {vault : Vault} (h : stored.Means vault)
    (configDir : String) (machineIds : List (Option String)) :
    vault.get configDir machineIds = stored.get configDir machineIds := by
  cases stored with
  | nothing =>
      unfold Vault.get
      rw [show vault.enc = none from h]
      rfl
  | kept machine password =>
      rcases h with ⟨salt, hsalt, henc, hlength⟩
      have hlong : ¬ salt.length < ARGON2_MIN_SALT_LENGTH := by
        rw [hlength]
        decide
      unfold Vault.get derivePasswordKey Stored.get
      rw [henc, hsalt]
      cases machineId machineIds with
      | error e => rfl
      | ok here => simp [hlong]
  | torn short =>
      rcases h with ⟨salt, enc, hsalt, henc, hshort, hother⟩
      unfold Vault.get derivePasswordKey Stored.get
      rw [henc, hsalt, hshort]
      cases machineId machineIds with
      | error e => rfl
      | ok here =>
          by_cases hlength : salt.length < ARGON2_MIN_SALT_LENGTH
          · simp [hlength]
          · cases enc with
            | cut => simp [hlength]
            | box machine salt' password =>
                have hne := (hother machine salt' password rfl).right
                simp [hlength, hne]

theorem Plan.Means.opened (h : plan.Means deriveNodeId inst) : inst.opened = plan.opened := by
  unfold Installation.opened Plan.opened
  rw [h.stored.get, h.configDir, h.machineIds]

theorem Plan.Means.prompt (h : plan.Means deriveNodeId inst) (t : Terminal) :
    t.promptPassword inst.vault.enc.isSome inst.opened =
      t.promptPassword plan.stored.present plan.opened := by
  rw [h.stored.present, h.opened]

theorem Unattended.prompt {t : Terminal} (ht : Unattended t) (present : Bool)
    (opened : Except PasswordError String) (password : String) :
    t.promptPassword present opened = Except.ok password <-> opened = Except.ok password := by
  have hget : t.getPassword present opened = opened := by
    unfold Terminal.getPassword Terminal.selectBackend
    rw [ht.explicit]
    rfl
  unfold Terminal.promptPassword
  rw [hget, ht.isatty]
  cases opened with
  | ok found => simp
  | error e => cases e <;> simp

theorem unlockOrExit_ok {t : Terminal} {seed : List UInt8} {nodeId : String} :
    inst.unlockOrExit deriveNodeId t = Except.ok (seed, nodeId) <->
      exists password metadata,
        t.promptPassword inst.vault.enc.isSome inst.opened = Except.ok password ∧
        unlockIdentity deriveNodeId password inst.disk = Except.ok (seed, metadata) ∧
        nodeId = metadata.nodeId := by
  unfold Installation.unlockOrExit
  constructor
  · intro h
    split at h
    · split at h
      · cases h
      · rename_i password hprompt
        split at h
        · cases h
        · cases h
        · rename_i seed' metadata hunlock
          cases h
          exact ⟨password, metadata, hprompt, hunlock, rfl⟩
    · cases h
  · rintro ⟨password, metadata, hprompt, hunlock, rfl⟩
    rw [if_pos (isSealed_of_unlock hunlock), hprompt]
    simp only [hunlock]

theorem Plan.starts_eq_some {seed : List UInt8} :
    plan.starts = some seed <->
      exists password, plan.key = Key.sealed seed password ∧
        plan.opened = Except.ok password := by
  unfold Plan.starts
  constructor
  · intro h
    split at h
    · rename_i seed' password opened hkey hopened
      split at h
      · rename_i heq
        cases h
        exact ⟨password, hkey, heq ▸ hopened⟩
      · cases h
    · cases h
  · rintro ⟨password, hkey, hopened⟩
    rw [hkey, hopened]
    exact if_pos rfl

/-- The daemon comes up by itself exactly when the plan says so, and with that seed. -/
theorem Plan.Means.starts (h : plan.Means deriveNodeId inst) {t : Terminal} (ht : Unattended t)
    (seed : List UInt8) (nodeId : String) :
    inst.unlockOrExit deriveNodeId t = Except.ok (seed, nodeId) <->
      plan.starts = some seed ∧ nodeId = deriveNodeId seed := by
  rw [unlockOrExit_ok, Plan.starts_eq_some]
  simp only [ht.prompt, h.opened]
  constructor
  · rintro ⟨password, metadata, hopened, hunlock, rfl⟩
    have hnode : deriveNodeId seed = metadata.nodeId := by
      rcases (unlockIdentity_ok deriveNodeId).mp hunlock with ⟨_, _, _, _, _, hderives⟩
      exact hderives
    refine ⟨⟨password, ?_, hopened⟩, hnode.symm⟩
    have hkey := h.key
    rcases hkey.isSealed.mp (isSealed_of_unlock hunlock) with ⟨seed', password', hsealed⟩ | htorn
    · rw [hsealed] at hkey
      rcases hkey with ⟨metadata', hunlock'⟩
      rw [hsealed, unlockIdentity_password hunlock hunlock',
        (unlockIdentity_unique deriveNodeId hunlock hunlock').left]
    · rw [htorn] at hkey
      exact absurd hunlock (hkey.right password _)
  · rintro ⟨⟨password, hsealed, hopened⟩, rfl⟩
    have hkey := h.key
    rw [hsealed] at hkey
    rcases hkey with ⟨metadata, hunlock⟩
    rcases (unlockIdentity_ok deriveNodeId).mp hunlock with ⟨_, _, _, _, _, hderives⟩
    exact ⟨password, metadata, hopened, hunlock, hderives⟩

end Reading

/-!
## One command
-/

section Steps

variable {deriveNodeId} {inst : Installation} {plan : Plan}

theorem isRaw_box {disk : Disk} {kek : Kek} {seed : List UInt8}
    (hlength : seed.length = SECRET_KEY_LENGTH) :
    isRaw { disk with key := some (KeyFile.box kek seed) } = false := by
  unfold isRaw
  cases disk.metadata with
  | none =>
      have hlong : seed.length + BOX_OVERHEAD ≠ SECRET_KEY_LENGTH := by
        rw [hlength]
        decide
      exact decide_eq_false hlong
  | some metadata => rfl

theorem Key.means_after {before between : Key} {disk : Disk} {seed salt : List UInt8}
    {password : String} (hlength : seed.length = SECRET_KEY_LENGTH)
    (hbefore : before.Means deriveNodeId disk)
    (hbetween : forall kek, kek.salt = salt ->
      between.Means deriveNodeId { disk with key := some (KeyFile.box kek seed) })
    (stop : SealStop) :
    (Key.after before between seed password stop).Means deriveNodeId
      (sealSeed deriveNodeId seed password salt stop disk) := by
  cases stop with
  | beforeKey => exact hbefore
  | betweenReplacements => exact hbetween _ rfl
  | afterMeta => exact ⟨_, unlockIdentity_sealSeed deriveNodeId hlength password salt disk⟩

/-- The key file of another password, beside metadata with another salt. -/
theorem Key.means_torn {disk : Disk} {seed salt : List UInt8} {kek : Kek}
    (hsealed : isSealed disk = true)
    (hfresh : forall metadata, disk.metadata = some metadata ->
      fromhex metadata.salt ≠ some salt) (hkek : kek.salt = salt) :
    Key.torn.Means deriveNodeId { disk with key := some (KeyFile.box kek seed) } := by
  constructor
  · have hmeta : disk.metadata.isSome = true := by
      unfold isSealed at hsealed
      exact (Bool.and_eq_true_iff.mp hsealed).right
    exact hmeta
  · rintro password ⟨seed', metadata⟩ hunlock
    rcases (unlockIdentity_ok deriveNodeId).mp hunlock with ⟨salt', hmeta, hsalt', hkey, _, _⟩
    apply hfresh metadata hmeta
    have hbox : kek = deriveKek password salt' metadata := by
      injection hkey with hbox
      injection hbox
    rw [hsalt', ← hkek, hbox]
    rfl

theorem Plan.Means.withKey (h : plan.Means deriveNodeId inst) {key : Key} {disk : Disk}
    (hkey : key.Means deriveNodeId disk) :
    Plan.Means deriveNodeId { inst with disk := disk } { plan with key := key } :=
  ⟨h.configDir, hkey, h.stored, h.machineIds, h.service⟩

theorem means_init (h : plan.Means deriveNodeId inst) (typed : List (String × String))
    {seed : List UInt8} (hseed : seed.length = SECRET_KEY_LENGTH) (salt : List UInt8)
    (stop : SealStop) :
    (plan.init typed seed stop).Means deriveNodeId
      (inst.init deriveNodeId typed seed salt stop) := by
  have hkey := h.key
  unfold Installation.init Plan.init
  cases hplan : plan.key with
  | absent =>
      rw [hplan] at hkey
      rw [if_neg (by rw [isSealed_of_metadata hkey.left]; exact Bool.false_ne_true)]
      cases hnew : promptNewPassword typed with
      | none => exact h
      | some password =>
          have hlong : ¬ password.length < MIN_PASSWORD_LENGTH :=
            Nat.not_lt.mpr (promptNewPassword_length hnew)
          simp only [hkey.right, Bool.false_eq_true, if_false, initSealedIdentity, hlong]
          apply h.withKey
          apply Key.means_after hseed hkey
          exact fun _ _ => ⟨hkey.left, isRaw_box hseed⟩
  | raw seed' =>
      rw [hplan] at hkey
      have hbefore : (Key.raw seed').Means deriveNodeId inst.disk := hkey
      rcases hkey with ⟨hmeta, hplain, hlength⟩
      have hraw : isRaw inst.disk = true := isRaw_iff.mpr ⟨hmeta, _, hplain, hlength⟩
      rw [if_neg (by rw [isSealed_of_metadata hmeta]; exact Bool.false_ne_true)]
      cases hnew : promptNewPassword typed with
      | none => exact h
      | some password =>
          have hlong : ¬ password.length < MIN_PASSWORD_LENGTH :=
            Nat.not_lt.mpr (promptNewPassword_length hnew)
          simp only [hraw, if_true, sealExistingIdentity, hlong, if_false, hplain, hlength,
            ne_eq, not_true_eq_false]
          apply h.withKey
          apply Key.means_after hlength hbefore
          exact fun _ _ => ⟨hmeta, isRaw_box hlength⟩
  | sealed seed' password =>
      rw [if_pos (hkey.isSealed.mpr (Or.inl ⟨seed', password, hplan⟩))]
      exact h
  | torn =>
      rw [if_pos (hkey.isSealed.mpr (Or.inr hplan))]
      exact h

theorem means_resetPassword (h : plan.Means deriveNodeId inst) (t : Terminal)
    (typed : List (String × String)) {salt : List UInt8}
    (hfresh : forall metadata, inst.disk.metadata = some metadata ->
      fromhex metadata.salt ≠ some salt) (stop : SealStop) :
    (plan.resetPassword t typed stop).Means deriveNodeId
      (inst.resetPassword deriveNodeId t typed salt stop) := by
  have hkey := h.key
  unfold Installation.resetPassword Plan.resetPassword
  rw [h.prompt]
  cases hplan : plan.key with
  | absent =>
      rw [hplan] at hkey
      rw [if_neg (by rw [isSealed_of_metadata hkey.left]; exact Bool.false_ne_true)]
      exact h
  | raw seed =>
      rw [hplan] at hkey
      rw [if_neg (by rw [isSealed_of_metadata hkey.left]; exact Bool.false_ne_true)]
      exact h
  | sealed seed password =>
      rw [hplan] at hkey
      have hsealed := hkey.isSealed.mpr (Or.inl ⟨seed, password, rfl⟩)
      rw [if_pos hsealed]
      have hbefore : (Key.sealed seed password).Means deriveNodeId inst.disk := hkey
      rcases hkey with ⟨metadata, hunlock⟩
      cases t.promptPassword plan.stored.present plan.opened with
      | error e => exact h
      | ok old =>
          simp only
          cases hnew : promptNewPassword typed with
          | none => split <;> exact h
          | some new =>
              by_cases hold : old = password
              · have hlong : ¬ new.length < MIN_PASSWORD_LENGTH :=
                  Nat.not_lt.mpr (promptNewPassword_length hnew)
                rcases (unlockIdentity_ok deriveNodeId).mp hunlock with ⟨_, _, _, _, hlength, _⟩
                rw [hold]
                simp only [hunlock, if_true, Identity.resetPassword, hlong, if_false]
                apply h.withKey
                apply Key.means_after hlength hbefore
                exact fun _ hkek => Key.means_torn hsealed hfresh hkek
              · simp only [if_neg hold]
                cases hopen : unlockIdentity deriveNodeId old inst.disk with
                | error e => exact h
                | ok result => exact absurd (unlockIdentity_password hopen hunlock) hold
  | torn =>
      rw [hplan] at hkey
      rw [if_pos hkey.left]
      cases t.promptPassword plan.stored.present plan.opened with
      | error e => exact h
      | ok old =>
          simp only
          cases hopen : unlockIdentity deriveNodeId old inst.disk with
          | error e => exact h
          | ok result => exact absurd hopen (hkey.right old result)

theorem ne_take {salt salt' : List UInt8} (hlength : salt'.length = salt.length)
    (hne : salt' ≠ salt) (n : Nat) : salt' ≠ salt.take n := by
  intro heq
  have hlonger : salt.length <= n := by
    have htake := congrArg List.length heq
    rw [List.length_take, hlength] at htake
    exact htake ▸ Nat.min_le_left n salt.length
  rw [List.take_of_length_le hlonger] at heq
  exact hne heq

theorem short_take {salt : List UInt8} (hlength : salt.length = PASSWORD_SALT_LENGTH) (n : Nat) :
    decide (n < ARGON2_MIN_SALT_LENGTH) =
      decide ((salt.take n).length < ARGON2_MIN_SALT_LENGTH) := by
  rw [List.length_take, hlength]
  unfold ARGON2_MIN_SALT_LENGTH PASSWORD_SALT_LENGTH
  congr 1
  exact propext ⟨fun h => by omega, fun h => by omega⟩

theorem Stored.means_inSalt {vault : Vault} {enc : EncFile} (henc : vault.enc = some enc)
    {salt : List UInt8} (hlength : salt.length = PASSWORD_SALT_LENGTH)
    (hbox : forall machine salt' password, enc = EncFile.box machine salt' password ->
      salt'.length = PASSWORD_SALT_LENGTH ∧ salt' ≠ salt) (n : Nat) :
    (Stored.torn (decide (n < ARGON2_MIN_SALT_LENGTH))).Means
      { vault with salt := some (salt.take n) } := by
  refine ⟨salt.take n, enc, rfl, henc, short_take hlength n, ?_⟩
  intro machine salt' password heq
  rcases hbox machine salt' password heq with ⟨hlength', hne⟩
  exact ⟨hlength', ne_take (hlength'.trans hlength.symm) hne n⟩

theorem Stored.means_after {stored : Stored} {vault : Vault} (h : stored.Means vault)
    {machineIds : List (Option String)} {machine : String}
    (hmachine : machineId machineIds = Except.ok machine) (password : String)
    {salt : List UInt8} (hlength : salt.length = PASSWORD_SALT_LENGTH)
    (hfresh : forall machineId salt' password',
      vault.enc = some (EncFile.box machineId salt' password') -> salt' ≠ salt)
    (stop : VaultStop) :
    exists vault', sealPasswordToDisk machineIds password salt stop vault = Except.ok vault' ∧
      (stored.after machine password stop).Means vault' := by
  have hlong : ¬ salt.length < ARGON2_MIN_SALT_LENGTH := by
    rw [hlength]
    decide
  unfold sealPasswordToDisk derivePasswordKey
  simp only [hmachine, if_neg hlong]
  cases stop with
  | beforeSalt => exact ⟨vault, rfl, h⟩
  | inSalt n =>
      refine ⟨_, rfl, ?_⟩
      cases stored with
      | nothing => exact h
      | kept machine' password' =>
          rcases h with ⟨salt', _, henc, hlength'⟩
          apply Stored.means_inSalt henc hlength
          rintro _ _ _ heq
          cases heq
          exact ⟨hlength', hfresh _ _ _ henc⟩
      | torn short =>
          rcases h with ⟨_, enc, _, henc, _, hother⟩
          apply Stored.means_inSalt henc hlength
          rintro machine' salt' password' rfl
          exact ⟨(hother _ _ _ rfl).left, hfresh _ _ _ henc⟩
  | inEnc =>
      refine ⟨_, rfl, salt, EncFile.cut, rfl, rfl, (decide_eq_false hlong).symm, ?_⟩
      rintro _ _ _ heq
      cases heq
  | done => exact ⟨_, rfl, salt, rfl, rfl, hlength⟩

theorem means_installService (h : plan.Means deriveNodeId inst) (force rotate : Bool)
    (typed : Option String) {salt : List UInt8} (hlength : salt.length = PASSWORD_SALT_LENGTH)
    (hfresh : forall machineId salt' password,
      inst.vault.enc = some (EncFile.box machineId salt' password) -> salt' ≠ salt)
    (stop : VaultStop) (finishes : Bool) :
    (plan.installService force rotate typed stop finishes).Means deriveNodeId
      (inst.installService force rotate typed salt stop finishes) := by
  have hpresent : inst.vault.enc.isNone = !plan.stored.present := by
    rw [← h.stored.present]
    cases inst.vault.enc <;> rfl
  unfold Installation.installService Plan.installService
  rw [h.service, h.machineIds, hpresent]
  split
  · exact h
  · split
    · cases typed with
      | none => exact h
      | some password =>
          cases hmachine : machineId inst.machineIds with
          | error e =>
              simp only [sealPasswordToDisk, derivePasswordKey, hmachine]
              exact h
          | ok machine =>
              rcases Stored.means_after h.stored hmachine password hlength hfresh stop with
                ⟨vault', hseal, hstored⟩
              simp only [hseal]
              exact ⟨h.configDir, h.key, hstored, rfl, rfl⟩
    · exact ⟨h.configDir, h.key, h.stored, rfl, rfl⟩

theorem Plan.Means.step (h : plan.Means deriveNodeId inst) (command : Command)
    (hfresh : Fresh inst command) :
    (plan.step command).Means deriveNodeId (inst.step deriveNodeId command) := by
  cases command with
  | init typed seed salt stop => exact means_init h typed hfresh salt stop
  | resetPassword t typed salt stop => exact means_resetPassword h t typed hfresh stop
  | installService force rotate typed salt stop finishes =>
      exact means_installService h force rotate typed hfresh.left hfresh.right stop finishes
  | move machineIds => exact ⟨h.configDir, h.key, h.stored, rfl, h.service⟩

end Steps

/-!
## What a plan keeps
-/

section Plans

variable {plan : Plan}

/-- A rotation that runs to its end. -/
def Command.Rotates (password : String) : Command -> Prop
  | installService _ rotate typed _ stop _ =>
      rotate = true ∧ typed = some password ∧ stop = VaultStop.done
  | _ => False

/-- A sealed identity keeps its seed for good, as long as it opens. -/
def Key.Of (seed : List UInt8) (key : Key) : Prop :=
  (exists password, key = sealed seed password) ∨ key = torn

theorem Key.Of.step {seed : List UInt8} (h : plan.key.Of seed) (command : Command) :
    (plan.step command).key.Of seed := by
  cases command with
  | init typed seed' salt stop =>
      show (plan.init typed seed' stop).key.Of seed
      unfold Plan.init
      rcases h with ⟨password, hkey⟩ | hkey
      · rw [hkey]
        exact Or.inl ⟨password, hkey⟩
      · rw [hkey]
        exact Or.inr hkey
  | resetPassword t typed salt stop =>
      show (plan.resetPassword t typed stop).key.Of seed
      unfold Plan.resetPassword
      split
      · rename_i seed' password old new hkey _ _
        split
        · rcases h with ⟨password', hkey'⟩ | hkey'
          · rw [hkey] at hkey'
            cases hkey'
            cases stop with
            | beforeKey => exact Or.inl ⟨password, rfl⟩
            | betweenReplacements => exact Or.inr rfl
            | afterMeta => exact Or.inl ⟨new, rfl⟩
          · rw [hkey] at hkey'
            cases hkey'
        · exact h
      · exact h
  | installService force rotate typed salt stop finishes =>
      show (plan.installService force rotate typed stop finishes).key.Of seed
      unfold Plan.installService
      split
      · exact h
      · split
        · split <;> exact h
        · exact h
  | move machineIds => exact h

/-- What is torn stays torn through every command but a rotation that runs to its end. -/
theorem torn_step (h : exists short, plan.stored = Stored.torn short) {command : Command}
    (hrotates : forall password, ¬ command.Rotates password) :
    exists short, (plan.step command).stored = Stored.torn short := by
  cases command with
  | init typed seed' salt stop =>
      show exists short, (plan.init typed seed' stop).stored = Stored.torn short
      unfold Plan.init
      split <;> exact h
  | resetPassword t typed salt stop =>
      show exists short, (plan.resetPassword t typed stop).stored = Stored.torn short
      unfold Plan.resetPassword
      split
      · split <;> exact h
      · exact h
  | installService force rotate typed salt stop finishes =>
      show exists short,
        (plan.installService force rotate typed stop finishes).stored = Stored.torn short
      rcases h with ⟨short, hstored⟩
      unfold Plan.installService
      rw [hstored]
      split
      · exact ⟨short, hstored⟩
      · split
        · rename_i hwrites
          split
          · rename_i password machine _
            have hrotate : rotate = true := hwrites
            cases stop with
            | beforeSalt => exact ⟨short, rfl⟩
            | inSalt n => exact ⟨_, rfl⟩
            | inEnc => exact ⟨_, rfl⟩
            | done => exact absurd ⟨hrotate, rfl, rfl⟩ (hrotates password)
          · exact ⟨short, hstored⟩
        · exact ⟨short, rfl⟩
  | move machineIds => exact h

theorem starts_of_torn (h : exists short, plan.stored = Stored.torn short) :
    plan.starts = none := by
  rcases h with ⟨short, hstored⟩
  cases hstarts : plan.starts with
  | none => rfl
  | some seed =>
      rcases Plan.starts_eq_some.mp hstarts with ⟨password, _, hopened⟩
      unfold Plan.opened at hopened
      rw [hstored] at hopened
      unfold Stored.get at hopened
      cases hmachine : machineId plan.machineIds with
      | error e => rw [hmachine] at hopened; cases hopened
      | ok here => rw [hmachine] at hopened; cases hopened

theorem starts_of_rotation {seed : List UInt8} {password : String}
    (hkey : plan.key = Key.sealed seed password) {here : String}
    (hmachine : machineId plan.machineIds = Except.ok here) {command : Command}
    (hrotates : command.Rotates password) : (plan.step command).starts = some seed := by
  cases command with
  | init typed seed' salt stop => exact hrotates.elim
  | resetPassword t typed salt stop => exact hrotates.elim
  | installService force rotate typed salt stop finishes =>
      rcases hrotates with ⟨rfl, rfl, rfl⟩
      apply Plan.starts_eq_some.mpr
      refine ⟨password, ?_⟩
      simp [Plan.step, Plan.installService, hmachine, Stored.after, Plan.opened, Stored.get, hkey]
  | move machineIds => exact hrotates.elim

end Plans

/-!
## Main result
-/

/--
From any installation with its plan, over every run of commands that may stop at each of their
writes.
-/
structure UnattendedLaw (inst : Installation) (plan : Plan) : Prop where
  /-- The daemon comes up by itself exactly when the plan says so. -/
  starts : forall es, (installations deriveNodeId inst).Guarded Fresh inst es ->
    forall t, Unattended t -> forall seed nodeId,
      ((installations deriveNodeId inst).exec inst es).unlockOrExit deriveNodeId t =
          Except.ok (seed, nodeId) <->
        ((plans plan).exec plan es).starts = some seed ∧ nodeId = deriveNodeId seed
  /-- Once it has come up, it never comes up as somebody else. -/
  same : forall t seed nodeId, Unattended t ->
    inst.unlockOrExit deriveNodeId t = Except.ok (seed, nodeId) ->
    forall es, (installations deriveNodeId inst).Guarded Fresh inst es ->
      forall t' seed' nodeId', Unattended t' ->
        ((installations deriveNodeId inst).exec inst es).unlockOrExit deriveNodeId t' =
            Except.ok (seed', nodeId') -> seed' = seed ∧ nodeId' = nodeId
  /-- A torn password keeps it down until a rotation runs to its end. -/
  torn : (exists short, plan.stored = Stored.torn short) ->
    forall es, (installations deriveNodeId inst).Guarded Fresh inst es ->
      (forall command, command ∈ es -> forall password, ¬ command.Rotates password) ->
      forall t seed nodeId, Unattended t ->
        ((installations deriveNodeId inst).exec inst es).unlockOrExit deriveNodeId t ≠
          Except.ok (seed, nodeId)
  /-- And one such rotation, to the password of the identity, brings it up. -/
  repaired : forall seed password here, plan.key = Key.sealed seed password ->
    machineId plan.machineIds = Except.ok here ->
    forall command, Fresh inst command -> command.Rotates password ->
      forall t, Unattended t ->
        (inst.step deriveNodeId command).unlockOrExit deriveNodeId t =
          Except.ok (seed, deriveNodeId seed)

theorem unattended_law {inst : Installation} {plan : Plan}
    (hmeans : plan.Means deriveNodeId inst) : UnattendedLaw deriveNodeId inst plan := by
  have hrun : forall es, (installations deriveNodeId inst).Guarded Fresh inst es ->
      Plan.Means deriveNodeId ((installations deriveNodeId inst).exec inst es)
        ((plans plan).exec plan es) := by
    intro es hes
    exact Machine.exec_simulation (R := fun s p => Plan.Means deriveNodeId s p)
      (fun s p e h hfresh => h.step e hfresh) hmeans hes
  constructor
  · exact fun es hes t ht => (hrun es hes).starts ht
  · intro t seed nodeId ht hstarted es hes t' seed' nodeId' ht' hstarted'
    rcases (hmeans.starts ht seed nodeId).mp hstarted with ⟨hseed, hnode⟩
    rcases ((hrun es hes).starts ht' seed' nodeId').mp hstarted' with ⟨hseed', hnode'⟩
    rcases Plan.starts_eq_some.mp hseed with ⟨password, hkey, _⟩
    rcases Plan.starts_eq_some.mp hseed' with ⟨password', hkey', _⟩
    have hof : ((plans plan).exec plan es).key.Of seed :=
      Machine.exec_invariant (P := fun _ => True) (I := fun p : Plan => p.key.Of seed)
        (fun _ e h _ => h.step e) (Or.inl ⟨password, hkey⟩) (fun _ _ => trivial)
    rcases hof with ⟨password'', hsealed⟩ | htorn
    · rw [hkey'] at hsealed
      cases hsealed
      exact ⟨rfl, hnode'.trans hnode.symm⟩
    · rw [hkey'] at htorn
      cases htorn
  · intro htorn es hes hrotates t seed nodeId ht hstarted
    have hstill : exists short, ((plans plan).exec plan es).stored = Stored.torn short :=
      Machine.exec_invariant (P := fun command : Command =>
          forall password, ¬ command.Rotates password)
        (I := fun p : Plan => exists short, p.stored = Stored.torn short)
        (fun _ _ h he => torn_step h he) htorn hrotates
    have hstarts := (((hrun es hes).starts ht seed nodeId).mp hstarted).left
    rw [starts_of_torn hstill] at hstarts
    cases hstarts
  · intro seed password here hkey hmachine command hfresh hrotates t ht
    have hstep : (plan.step command).Means deriveNodeId (inst.step deriveNodeId command) :=
      hmeans.step command hfresh
    exact (hstep.starts ht seed _).mpr ⟨starts_of_rotation hkey hmachine hrotates, rfl⟩

/-!
A new installation is initialised, and its unit installed.  A first attempt at that stops behind
half of the salt, and the password typed then is a wrong one.
-/

def newInstallation : Installation where
  configDir := "/etc/panic-monitor"
  disk := { keyPath := "secret.key", metaPath := "secret.meta", key := none, metadata := none }
  vault := { salt := none, enc := none }
  machineIds := [none, some "b08dfa6083e7\n"]
  service := false

def newPlan : Plan where
  configDir := "/etc/panic-monitor"
  key := Key.absent
  stored := Stored.nothing
  machineIds := [none, some "b08dfa6083e7\n"]
  service := false

theorem means_new : newPlan.Means deriveNodeId newInstallation :=
  ⟨rfl, ⟨rfl, rfl⟩, rfl, rfl, rfl⟩

def firstCommands : List Command :=
  [Command.init [("short", ""), ("correct horse", "correct horse")] sampleSeed
      (repeatedSalt 1) SealStop.afterMeta,
    Command.installService false false (some "wrong battery") (repeatedSalt 2)
      (VaultStop.inSalt 5) false,
    Command.installService false false (some "correct horse") (repeatedSalt 3) VaultStop.done
      true]

/-- `ExecStart` in the unit, with no variable set. -/
def unitTerminal : Terminal where
  explicit := some "machine-id"
  passwordFrom := none
  credentialsDirectory := none
  credential := none
  envPassword := none
  keyring := none
  euid := 0
  stdinLine := ""
  isatty := false
  pinentry := none
  prompted := none

theorem unattended_law_booted :
    ((installations (fun _ => "node") newInstallation).exec newInstallation
      firstCommands).unlockOrExit (fun _ => "node") unitTerminal =
        Except.ok (sampleSeed, "node") := by
  have hfresh : (installations (fun _ => "node") newInstallation).Guarded Fresh newInstallation
      firstCommands :=
    ⟨rfl, ⟨rfl, fun _ _ _ h => by cases h⟩, ⟨rfl, fun _ _ _ h => by cases h⟩, trivial⟩
  have hlaw := unattended_law (fun _ => "node") (means_new (fun _ => "node"))
  exact (hlaw.starts firstCommands hfresh unitTerminal ⟨rfl, rfl⟩ sampleSeed "node").mpr
    ⟨by decide, rfl⟩

end Identity
end PanicMonitr
