import PanicMonitr.Foundation.Machine
import PanicMonitr.Identity.Seal

/-!
# Recovering a seed after an interrupted re-seal

The key file is replaced before the metadata, so a stop in between leaves a box made
with the new salt beside the old metadata, or beside none.  That pair still opens only
if the new box happens to need the salt and costs of the old metadata.
-/

namespace PanicMonitr
namespace Identity

open Foundation

variable (deriveNodeId : List UInt8 -> String)

/-- The seed can still be had: with one of the passwords, or from a raw key file. -/
def Recoverable (disk : Disk) (seed : List UInt8) (passwords : List String) : Prop :=
  (exists password metadata, password ∈ passwords ∧
    unlockIdentity deriveNodeId password disk = Except.ok (seed, metadata)) ∨
  (isRaw disk = true ∧ disk.key = some (KeyFile.plain seed))

/-!
## Unlocking
-/

theorem unlockIdentity_ok {password : String} {disk : Disk} {seed : List UInt8}
    {metadata : IdentityMeta} :
    unlockIdentity deriveNodeId password disk = Except.ok (seed, metadata) <->
      exists salt, disk.metadata = some metadata ∧ fromhex metadata.salt = some salt ∧
        disk.key = some (KeyFile.box (deriveKek password salt metadata) seed) ∧
        seed.length = SECRET_KEY_LENGTH ∧ deriveNodeId seed = metadata.nodeId := by
  constructor
  · intro h
    unfold unlockIdentity at h
    cases hkey : disk.key with
    | none => simp [hkey] at h
    | some key =>
        cases hmeta : disk.metadata with
        | none => simp [hkey, hmeta] at h
        | some metadata' =>
            cases hsalt : fromhex metadata'.salt with
            | none => simp [hkey, hmeta, hsalt] at h
            | some salt =>
                cases key with
                | plain bytes => simp [hkey, hmeta, hsalt, KeyFile.decrypt] at h
                | box kek plaintext =>
                    simp only [hkey, hmeta, hsalt, KeyFile.decrypt] at h
                    by_cases hkek : kek = deriveKek password salt metadata'
                    · rw [if_pos hkek] at h
                      simp only at h
                      split at h
                      · cases h
                      · split at h
                        · cases h
                        · rename_i hlength hnode
                          cases h
                          exact ⟨salt, rfl, hsalt, by rw [hkek], not_not.mp hlength,
                            not_not.mp hnode⟩
                    · rw [if_neg hkek] at h
                      cases h
  · rintro ⟨salt, hmeta, hsalt, hkey, hlength, hnode⟩
    unfold unlockIdentity
    simp [hmeta, hsalt, hkey, KeyFile.decrypt, hlength, hnode]

theorem unlockIdentity_unique {password password' : String} {disk : Disk}
    {seed seed' : List UInt8} {metadata metadata' : IdentityMeta}
    (h : unlockIdentity deriveNodeId password disk = Except.ok (seed, metadata))
    (h' : unlockIdentity deriveNodeId password' disk = Except.ok (seed', metadata')) :
    seed = seed' ∧ metadata = metadata' := by
  rcases (unlockIdentity_ok deriveNodeId).mp h with ⟨salt, hmeta, _, hkey, _, _⟩
  rcases (unlockIdentity_ok deriveNodeId).mp h' with ⟨salt', hmeta', _, hkey', _, _⟩
  rw [hkey] at hkey'
  rw [hmeta] at hmeta'
  exact ⟨(KeyFile.box.inj (Option.some.inj hkey')).right, Option.some.inj hmeta'⟩

theorem unlockIdentity_sealSeed {seed : List UInt8} (hlength : seed.length = SECRET_KEY_LENGTH)
    (password : String) (salt : List UInt8) (disk : Disk) :
    unlockIdentity deriveNodeId password
        (sealSeed deriveNodeId seed password salt SealStop.afterMeta disk) =
      Except.ok (seed, sealMeta deriveNodeId seed salt) :=
  (unlockIdentity_ok deriveNodeId).mpr
    ⟨salt, rfl, fromhex_hex salt, rfl, hlength, rfl⟩

theorem isRaw_iff {disk : Disk} :
    isRaw disk = true <-> disk.metadata = none ∧
      exists key, disk.key = some key ∧ key.length = SECRET_KEY_LENGTH := by
  unfold isRaw
  cases disk.metadata with
  | some metadata => simp
  | none =>
      cases disk.key with
      | none => simp
      | some key => simp

/-!
## One call
-/

inductive SealCall where
  | resetPassword (oldPassword newPassword : String)
  | sealExisting (password : String)

namespace SealCall

def newPassword : SealCall -> String
  | resetPassword _ new => new
  | sealExisting password => password

def passwords : SealCall -> List String
  | resetPassword old new => [old, new]
  | sealExisting password => [password]

def run (call : SealCall) (salt : List UInt8) (stop : SealStop) (disk : Disk) :
    Except IdentityError Disk :=
  match call with
  | resetPassword old new => Identity.resetPassword deriveNodeId old new salt stop disk
  | sealExisting password => sealExistingIdentity deriveNodeId password salt stop disk

/-- The disk a call leaves; a call that raised before `_seal` has written nothing. -/
def leaves (call : SealCall) (salt : List UInt8) (stop : SealStop) (disk : Disk) : Disk :=
  match call.run deriveNodeId salt stop disk with
  | Except.ok disk' => disk'
  | Except.error _ => disk

/-- The situations a seed can be re-sealed in: sealed under the old password, or raw. -/
def Holds (call : SealCall) (disk : Disk) (seed : List UInt8) : Prop :=
  match call with
  | resetPassword old _ =>
      exists metadata,
        unlockIdentity deriveNodeId old disk = Except.ok (seed, metadata)
  | sealExisting _ => isRaw disk = true ∧ disk.key = some (KeyFile.plain seed)

end SealCall

/-- The metadata on disk names the salt and the costs the new box is made with. -/
def SameBox (disk : Disk) (salt : List UInt8) : Prop :=
  exists metadata, disk.metadata = some metadata ∧ fromhex metadata.salt = some salt ∧
    metadata.timeCost = ARGON2_TIME_COST ∧ metadata.memoryCost = ARGON2_MEMORY_COST ∧
    metadata.parallelism = ARGON2_PARALLELISM

/-- The stop that leaves the new key file beside metadata it does not belong to. -/
def TornPair (call : SealCall) (salt : List UInt8) (stop : SealStop) (disk : Disk) : Prop :=
  stop = SealStop.betweenReplacements ∧
    MIN_PASSWORD_LENGTH <= call.newPassword.length ∧ ¬ SameBox disk salt

theorem sameBox_iff_kek {disk : Disk} {metadata : IdentityMeta} (seed : List UInt8)
    {salt : List UInt8} (hmeta : disk.metadata = some metadata) :
    SameBox disk salt <-> exists salt', fromhex metadata.salt = some salt' ∧
      forall password, deriveKek password salt' metadata =
        deriveKek password salt (sealMeta deriveNodeId seed salt) := by
  constructor
  · rintro ⟨metadata', hmeta', hsalt, htime, hmemory, hparallel⟩
    rw [hmeta] at hmeta'
    cases hmeta'
    refine ⟨salt, hsalt, fun password => ?_⟩
    unfold deriveKek
    rw [htime, hmemory, hparallel]
    rfl
  · rintro ⟨salt', hsalt, hkek⟩
    have h := Kek.mk.inj (hkek "")
    exact ⟨metadata, hmeta, by rw [hsalt, h.right.left], h.right.right.left,
      h.right.right.right.left, h.right.right.right.right⟩

/-- Between the replacements, a sealed pair opens exactly when it is the same box. -/
theorem recoverable_between_sealed {disk : Disk} {seed : List UInt8} {old : String}
    {metadata : IdentityMeta}
    (hold : unlockIdentity deriveNodeId old disk = Except.ok (seed, metadata))
    (new : String) (salt : List UInt8) :
    Recoverable deriveNodeId
        (sealSeed deriveNodeId seed new salt SealStop.betweenReplacements disk) seed
        [old, new] <->
      SameBox disk salt := by
  rcases (unlockIdentity_ok deriveNodeId).mp hold with ⟨_, hmeta, _, _, hlength, hnode⟩
  rw [sameBox_iff_kek deriveNodeId seed hmeta]
  constructor
  · rintro (⟨password, metadata', _, hopen⟩ | ⟨hraw, _⟩)
    · rcases (unlockIdentity_ok deriveNodeId).mp hopen with ⟨salt', hmeta', hsalt', hkey, _⟩
      have hsame : metadata' = metadata := by
        rw [show (sealSeed deriveNodeId seed new salt SealStop.betweenReplacements
          disk).metadata = disk.metadata from rfl, hmeta] at hmeta'
        exact (Option.some.inj hmeta').symm
      rw [hsame] at hsalt' hkey
      have hkek := (KeyFile.box.inj (Option.some.inj hkey)).left
      have hfields := Kek.mk.inj hkek
      refine ⟨salt', hsalt', fun p => ?_⟩
      unfold deriveKek
      rw [← hfields.right.left, ← hfields.right.right.left,
        ← hfields.right.right.right.left, ← hfields.right.right.right.right]
    · rcases isRaw_iff.mp hraw with ⟨hnone, _⟩
      rw [show (sealSeed deriveNodeId seed new salt SealStop.betweenReplacements
        disk).metadata = disk.metadata from rfl, hmeta] at hnone
      cases hnone
  · rintro ⟨salt', hsalt', hkek⟩
    refine Or.inl ⟨new, metadata, by simp, ?_⟩
    refine (unlockIdentity_ok deriveNodeId).mpr ⟨salt', hmeta, hsalt', ?_, hlength, hnode⟩
    rw [hkek new]
    rfl

/-- Between the replacements, a key that was raw is gone: no metadata names its salt. -/
theorem not_recoverable_between_raw {disk : Disk} {seed : List UInt8}
    (hraw : isRaw disk = true) (new : String) (salt : List UInt8) (passwords : List String) :
    ¬ Recoverable deriveNodeId
        (sealSeed deriveNodeId seed new salt SealStop.betweenReplacements disk) seed
        passwords := by
  rcases isRaw_iff.mp hraw with ⟨hnone, _⟩
  rintro (⟨password, metadata, _, hopen⟩ | ⟨_, hkey⟩)
  · rcases (unlockIdentity_ok deriveNodeId).mp hopen with ⟨_, hmeta, _⟩
    rw [show (sealSeed deriveNodeId seed new salt SealStop.betweenReplacements
      disk).metadata = disk.metadata from rfl, hnone] at hmeta
    cases hmeta
  · cases Option.some.inj hkey

theorem leaves_eq {call : SealCall} {disk : Disk} {seed : List UInt8}
    (hholds : call.Holds deriveNodeId disk seed) (salt : List UInt8) (stop : SealStop) :
    call.leaves deriveNodeId salt stop disk =
      if call.newPassword.length < MIN_PASSWORD_LENGTH then disk
      else sealSeed deriveNodeId seed call.newPassword salt stop disk := by
  cases call with
  | resetPassword old new =>
      rcases hholds with ⟨metadata, hold⟩
      unfold SealCall.leaves SealCall.run resetPassword
      by_cases hshort : new.length < MIN_PASSWORD_LENGTH
      · simp [SealCall.newPassword, hshort]
      · simp [SealCall.newPassword, hshort, hold]
  | sealExisting password =>
      rcases hholds with ⟨hraw, hkey⟩
      have hlength : seed.length = SECRET_KEY_LENGTH := by
        rcases isRaw_iff.mp hraw with ⟨_, key, hkey', hlen⟩
        rw [hkey] at hkey'
        cases hkey'
        exact hlen
      unfold SealCall.leaves SealCall.run sealExistingIdentity
      by_cases hshort : password.length < MIN_PASSWORD_LENGTH
      · simp [SealCall.newPassword, hshort]
      · simp [SealCall.newPassword, hshort, hkey, hlength]

theorem seed_length {call : SealCall} {disk : Disk} {seed : List UInt8}
    (hholds : call.Holds deriveNodeId disk seed) : seed.length = SECRET_KEY_LENGTH := by
  cases call with
  | resetPassword old new =>
      rcases hholds with ⟨metadata, hold⟩
      rcases (unlockIdentity_ok deriveNodeId).mp hold with ⟨_, _, _, _, hlength, _⟩
      exact hlength
  | sealExisting password =>
      rcases hholds with ⟨hraw, hkey⟩
      rcases isRaw_iff.mp hraw with ⟨_, key, hkey', hlen⟩
      rw [hkey] at hkey'
      cases hkey'
      exact hlen

theorem recoverable_before {call : SealCall} {disk : Disk} {seed : List UInt8}
    (hholds : call.Holds deriveNodeId disk seed) :
    Recoverable deriveNodeId disk seed call.passwords := by
  cases call with
  | resetPassword old new =>
      rcases hholds with ⟨metadata, hold⟩
      exact Or.inl ⟨old, metadata, by simp [SealCall.passwords], hold⟩
  | sealExisting password => exact Or.inr hholds

theorem reseal_step_recoverable {call : SealCall} {disk : Disk} {seed : List UInt8}
    (hholds : call.Holds deriveNodeId disk seed) (salt : List UInt8) (stop : SealStop) :
    Recoverable deriveNodeId (call.leaves deriveNodeId salt stop disk) seed
        call.passwords <->
      ¬ TornPair call salt stop disk := by
  rw [leaves_eq deriveNodeId hholds]
  by_cases hshort : call.newPassword.length < MIN_PASSWORD_LENGTH
  · rw [if_pos hshort]
    refine iff_of_true (recoverable_before deriveNodeId hholds) ?_
    exact fun htorn => absurd htorn.right.left (by omega)
  · rw [if_neg hshort]
    have hlong : MIN_PASSWORD_LENGTH <= call.newPassword.length := by omega
    cases stop with
    | beforeKey =>
        exact iff_of_true (recoverable_before deriveNodeId hholds)
          (fun htorn => by cases htorn.left)
    | afterMeta =>
        refine iff_of_true (Or.inl ⟨call.newPassword, _, ?_,
          unlockIdentity_sealSeed deriveNodeId (seed_length deriveNodeId hholds) _ _ _⟩)
          (fun htorn => by cases htorn.left)
        cases call <;> simp [SealCall.passwords, SealCall.newPassword]
    | betweenReplacements =>
        have htorn : ¬ TornPair call salt SealStop.betweenReplacements disk <->
            SameBox disk salt := by
          unfold TornPair
          simp [hlong]
        rw [htorn]
        cases call with
        | resetPassword old new =>
            rcases hholds with ⟨metadata, hold⟩
            exact recoverable_between_sealed deriveNodeId hold new salt
        | sealExisting password =>
            refine iff_of_false
              (not_recoverable_between_raw deriveNodeId hholds.left password salt _) ?_
            rintro ⟨metadata, hmeta, _⟩
            rcases isRaw_iff.mp hholds.left with ⟨hnone, _⟩
            rw [hnone] at hmeta
            cases hmeta

/--
For every seed, call and stop: the files left on disk give the seed back exactly when
the call did not stop between its replacements with a box the old metadata does not
open.
-/
theorem reseal_recoverable_iff {call : SealCall} {disk : Disk} {seed : List UInt8}
    (hholds : call.Holds deriveNodeId disk seed) (salt : List UInt8) (stop : SealStop) :
    Recoverable deriveNodeId (call.leaves deriveNodeId salt stop disk) seed
        call.passwords <->
      ¬ TornPair call salt stop disk :=
  reseal_step_recoverable deriveNodeId hholds salt stop

/-- The salt of the concrete runs below: 16 equal bytes. -/
def repeatedSalt (b : UInt8) : List UInt8 :=
  List.replicate 16 b

def sampleSeed : List UInt8 :=
  List.replicate SECRET_KEY_LENGTH 7

def sampleDisk (password : String) (salt : List UInt8) : Disk :=
  sealSeed (fun _ => "node") sampleSeed password salt SealStop.afterMeta
    { keyPath := "secret.key", metaPath := "secret.meta", key := none, metadata := none }

/-- A password reset that runs to its end. -/
theorem reseal_recoverable_reset :
    Recoverable (fun _ => "node")
      ((SealCall.resetPassword "first password" "second password").leaves
        (fun _ => "node") (repeatedSalt 2) SealStop.afterMeta
        (sampleDisk "first password" (repeatedSalt 1)))
      sampleSeed ["first password", "second password"] :=
  (reseal_recoverable_iff (fun _ => "node")
    (show SealCall.Holds (fun _ => "node")
        (SealCall.resetPassword "first password" "second password")
        (sampleDisk "first password" (repeatedSalt 1)) sampleSeed from
      ⟨sealMeta (fun _ => "node") sampleSeed (repeatedSalt 1), by decide⟩)
    (repeatedSalt 2) SealStop.afterMeta).mpr (fun htorn => by cases htorn.left)

/-- A password reset that stops between its two replacements. -/
theorem reseal_not_recoverable :
    ¬ forall (deriveNodeId : List UInt8 -> String) (call : SealCall) (disk : Disk)
      (seed salt : List UInt8) (stop : SealStop), call.Holds deriveNodeId disk seed ->
        Recoverable deriveNodeId (call.leaves deriveNodeId salt stop disk) seed
          call.passwords := by
  intro hclaim
  have hrecover := hclaim (fun _ => "node")
    (SealCall.resetPassword "first password" "second password")
    (sampleDisk "first password" (repeatedSalt 1)) sampleSeed (repeatedSalt 2)
    SealStop.betweenReplacements
    ⟨sealMeta (fun _ => "node") sampleSeed (repeatedSalt 1), by decide⟩
  rcases hrecover with ⟨password, metadata, hin, hopen⟩ | ⟨hraw, _⟩
  · have hfails : forall p, p ∈ ["first password", "second password"] ->
        unlockIdentity (fun _ => "node") p
          ((SealCall.resetPassword "first password" "second password").leaves
            (fun _ => "node") (repeatedSalt 2) SealStop.betweenReplacements
            (sampleDisk "first password" (repeatedSalt 1))) =
          Except.error (IdentityError.valueError
            "wrong password or corrupted secret.key") := by decide
    rw [hfails password hin] at hopen
    cases hopen
  · revert hraw
    decide

/-!
## Repeated calls

The seed survives any sequence of calls, failing ones included, as long as none of
them leaves a torn pair.
-/

/-- The disk, and every password given to a call so far. -/
structure Keeper where
  disk : Disk
  passwords : List String

def reseals (seed : List UInt8) :
    Machine Keeper (SealCall × List UInt8 × SealStop) :=
  { start := fun k => Recoverable deriveNodeId k.disk seed k.passwords
    step := fun k e =>
      { disk := e.1.leaves deriveNodeId e.2.1 e.2.2 k.disk
        passwords := k.passwords ++ e.1.passwords } }

theorem Recoverable.mono {disk : Disk} {seed : List UInt8} {passwords more : List String}
    (h : Recoverable deriveNodeId disk seed passwords)
    (hsub : forall p, p ∈ passwords -> p ∈ more) :
    Recoverable deriveNodeId disk seed more := by
  rcases h with ⟨password, metadata, hin, hopen⟩ | hraw
  · exact Or.inl ⟨password, metadata, hsub password hin, hopen⟩
  · exact Or.inr hraw

/-- A call either starts from the seed itself or raises before it writes. -/
theorem holds_or_unchanged {disk : Disk} {seed : List UInt8} {passwords : List String}
    (h : Recoverable deriveNodeId disk seed passwords) (call : SealCall)
    (salt : List UInt8) (stop : SealStop) :
    call.Holds deriveNodeId disk seed ∨
      call.leaves deriveNodeId salt stop disk = disk := by
  cases call with
  | resetPassword old new =>
      cases hunlock : unlockIdentity deriveNodeId old disk with
      | error e =>
          right
          unfold SealCall.leaves SealCall.run resetPassword
          by_cases hshort : new.length < MIN_PASSWORD_LENGTH
          · simp [hshort]
          · simp [hshort, hunlock]
      | ok opened =>
          rcases opened with ⟨seed', metadata'⟩
          left
          rcases h with ⟨password, metadata, _, hopen⟩ | ⟨hraw, _⟩
          · rcases unlockIdentity_unique deriveNodeId hunlock hopen with ⟨hseed, _⟩
            exact ⟨metadata', by rw [← hseed]; exact hunlock⟩
          · rcases isRaw_iff.mp hraw with ⟨hnone, _⟩
            rcases (unlockIdentity_ok deriveNodeId).mp hunlock with ⟨_, hmeta, _⟩
            rw [hnone] at hmeta
            cases hmeta
  | sealExisting password =>
      rcases h with ⟨p, metadata, _, hopen⟩ | hraw
      · right
        rcases (unlockIdentity_ok deriveNodeId).mp hopen with ⟨_, _, _, hkey, _⟩
        unfold SealCall.leaves SealCall.run sealExistingIdentity
        by_cases hshort : password.length < MIN_PASSWORD_LENGTH
        · simp [hshort]
        · simp [hshort, hkey]
      · exact Or.inl hraw

theorem reseals_recoverable (seed : List UInt8) {past : List Keeper} {k : Keeper}
    (hrun : (reseals deriveNodeId seed).Run
      (fun k e => ¬ TornPair e.1 e.2.1 e.2.2 k.disk) past k) :
    Recoverable deriveNodeId k.disk seed k.passwords := by
  have hstep : forall (k : Keeper) (e : SealCall × List UInt8 × SealStop),
      Recoverable deriveNodeId k.disk seed k.passwords ->
      ¬ TornPair e.1 e.2.1 e.2.2 k.disk ->
      Recoverable deriveNodeId ((reseals deriveNodeId seed).step k e).disk seed
        ((reseals deriveNodeId seed).step k e).passwords := by
    intro k e h htorn
    rcases e with ⟨call, salt, stop⟩
    rcases holds_or_unchanged deriveNodeId h call salt stop with hholds | hsame
    · refine Recoverable.mono deriveNodeId
        ((reseal_step_recoverable deriveNodeId hholds salt stop).mpr htorn) ?_
      exact fun p hp => List.mem_append_right _ hp
    · show Recoverable deriveNodeId (call.leaves deriveNodeId salt stop k.disk) seed _
      rw [hsame]
      exact Recoverable.mono deriveNodeId h (fun p hp => List.mem_append_left _ hp)
  exact hrun.invariant (fun k hk => hk) hstep

end Identity
end PanicMonitr
