import FixBridge.Library.History
import FixBridge.Library.Machine
import Mathlib.Logic.Function.Basic

/-! Exclusive ownership: a partial map from resources to owners, and the requests that change it. -/

/-- Every resource has at most one owner. -/
abbrev Ownership (κ σ : Type) := κ → Option σ

namespace Ownership

variable {κ σ : Type}

/-- What an owner may ask for. -/
inductive Request (κ σ : Type) where
  | acquire (who : σ) (key : κ)
  | release (who : σ) (key : κ)
  | releaseAll (who : σ)

section Acquire

variable [DecidableEq κ]

/-- A free resource goes to whoever asks for it. -/
def acquire (who : σ) (key : κ) (owner : Ownership κ σ) : Ownership κ σ × Bool :=
  match owner key with
  | none => (Function.update owner key (some who), true)
  -- A resource that is taken stays with its owner, and the asker is told so.
  | some _ => (owner, false)

/-- Acquiring a free resource gives it to the asker and leaves the others alone. -/
theorem acquire_of_free {who : σ} {key : κ} {owner : Ownership κ σ} (free : owner key = none) :
    owner.acquire who key = (Function.update owner key (some who), true) := by
  simp [acquire, free]

/-- A resource that is owned cannot be acquired. -/
theorem acquire_of_owned {who other : σ} {key : κ} {owner : Ownership κ σ}
    (owned : owner key = some other) : owner.acquire who key = (owner, false) := by
  simp [acquire, owned]

end Acquire

variable [DecidableEq σ]

/-- Everything one owner holds becomes free. -/
def releaseAll (who : σ) (owner : Ownership κ σ) : Ownership κ σ :=
  fun key => if owner key = some who then none else owner key

variable [DecidableEq κ]

/-- A resource is given up by its owner only. -/
def release (who : σ) (key : κ) (owner : Ownership κ σ) : Ownership κ σ × Bool :=
  if owner key = some who then (Function.update owner key none, true) else (owner, false)

/-- The effect of one request, with the answer that the requests about one resource give. -/
def perform : Request κ σ → Ownership κ σ → Ownership κ σ × Option Bool
  | .acquire who key, owner => ((owner.acquire who key).1, some (owner.acquire who key).2)
  | .release who key, owner => ((owner.release who key).1, some (owner.release who key).2)
  | .releaseAll who, owner => (owner.releaseAll who, none)

/-- Ownership as a machine that answers requests. -/
def machine : Machine (Request κ σ) (Ownership κ σ) (Option Bool) := ⟨perform⟩

/-- The owner's release frees the resource and leaves the others alone. -/
theorem release_of_owned {who : σ} {key : κ} {owner : Ownership κ σ}
    (owned : owner key = some who) :
    owner.release who key = (Function.update owner key none, true) := by
  simp [release, owned]

/-- Somebody else's release changes nothing. -/
theorem release_of_other {who : σ} {key : κ} {owner : Ownership κ σ}
    (other : owner key ≠ some who) : owner.release who key = (owner, false) := by
  simp [release, other]

section Rulings

/-- A change of ownership that has been decided. -/
inductive Ruling (κ σ : Type) where
  | granted (who : σ) (key : κ)
  | released (who : σ) (key : κ)
  | releasedAll (who : σ)
  deriving DecidableEq, Repr

/-- Ownership after a ruling. -/
def rule (owner : Ownership κ σ) : Ruling κ σ → Ownership κ σ
  | .granted who key => Function.update owner key (some who)
  | .released _ key => Function.update owner key none
  | .releasedAll who => owner.releaseAll who

/-- The rulings that decide whether somebody owns a resource. -/
def Ruling.concerns (who : σ) (key : κ) : Ruling κ σ → Bool
  | .granted _ other => other = key
  | .released _ other => other = key
  -- Only what somebody owns is released with everything else.
  | .releasedAll other => other = who

/-- A ruling that concerns a resource decides about it, and any other leaves it alone. -/
theorem rule_iff (owner : Ownership κ σ) (ruling : Ruling κ σ) (who : σ) (key : κ) :
    owner.rule ruling key = some who ↔
      if ruling.concerns who key = true then ruling = .granted who key
      else owner key = some who := by
  -- A ruling on the key decides who owns it, and any other leaves the owner as it was.
  cases ruling with
  | granted other resource =>
    by_cases same : resource = key
    · subst same
      simp [rule, Ruling.concerns]
    · simp [rule, Ruling.concerns, same, Ne.symm same]
  | released other resource =>
    by_cases same : resource = key
    · -- A release of the key leaves it to nobody, so that both sides are false.
      subst same
      simp [rule, Ruling.concerns]
    · simp [rule, Ruling.concerns, same, Ne.symm same]
  | releasedAll other =>
    -- Somebody loses all keys, and the question is whether that is the one asked about.
    by_cases same : other = who
    · subst same
      simp [rule, Ruling.concerns, releaseAll]
    · -- The owner is somebody else than the one who has lost everything.
      simp only [rule, Ruling.concerns, releaseAll, same, decide_false, Bool.false_eq_true,
        if_false]
      constructor
      · intro owned
        split at owned
        · cases owned
        · exact owned
      · intro owned
        rw [if_neg]
        · exact owned
        · rw [owned]
          exact fun equal => same (Option.some.inj equal).symm

/-- Somebody owns a resource when the latest ruling that concerns the two has granted it. -/
theorem owner_iff_latest (rulings : List (Ruling κ σ)) (who : σ) (key : κ) :
    rulings.foldl rule (fun _ => none) key = some who ↔
      History.latest (Ruling.concerns who key) rulings = some (.granted who key) := by
  -- As a property of who owns the key, a ruling overwrites it or leaves it alone.
  have overwrites : ∀ (owner : Ownership κ σ) (ruling : Ruling κ σ), True →
      (owner.rule ruling key = some who) =
        if ruling.concerns who key = true then ruling = .granted who key
        else owner key = some who :=
    fun owner ruling _ => propext (rule_iff owner ruling who key)
  have seen := (@History.foldl_latest (Ruling κ σ) (Ownership κ σ) Prop rule
    (Ruling.concerns who key) _ (fun owner => owner key = some who) (fun _ => True)
    (fun _ _ _ => trivial) overwrites rulings (fun _ => none) trivial).2
  -- Without any ruling on the key, nobody owned it at the start.
  rw [seen]
  cases latest : History.latest (Ruling.concerns who key) rulings with
  | none => simp
  | some ruling => simp

end Rulings

end Ownership
