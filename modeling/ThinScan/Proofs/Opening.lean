import Mathlib.Data.List.Nodup
import ThinScan.Location.Registry

set_option autoImplicit false

namespace ThinScan.Registry

variable {registry : Registry}

def handles (registry : Registry) : List Handle :=
  registry.buckets.map Prod.snd ++ registry.memories.map Prod.snd

structure Sound (registry : Registry) : Prop where
  issued : ∀ handle ∈ registry.handles, handle.serial < registry.opened
  apart : (registry.handles.map Handle.serial).Nodup

theorem sound_new (number : Nat) : (Registry.mk number [] [] 0).Sound :=
  ⟨List.forall_mem_nil _, List.nodup_nil⟩

theorem sound_open {after : Registry} {fresh : Handle} (sound : registry.Sound) (serial : fresh.serial = registry.opened)
    (handles : after.handles.Perm (fresh :: registry.handles)) (opened : after.opened = registry.opened + 1) :
    after.Sound := by
  have unused : fresh.serial ∉ registry.handles.map Handle.serial := by
    intro member
    obtain ⟨handle, held, same⟩ := List.mem_map.mp member
    have below := sound.issued handle held
    omega
  constructor
  · intro handle member
    rw [opened]
    rcases List.mem_cons.mp (handles.mem_iff.mp member) with new | held
    · rw [new, serial]
      exact Nat.lt_succ_self _
    · exact Nat.lt_succ_of_lt (sound.issued handle held)
  · rw [(handles.map Handle.serial).nodup_iff, List.map_cons]
    exact List.nodup_cons.mpr ⟨unused, sound.apart⟩

theorem sound_bucket (sound : registry.Sound) (name : Text) (anonymous : Bool) :
    (registry.bucket name anonymous).2.Sound := by
  unfold bucket
  cases registry.buckets.lookup (name, anonymous) with
  | some handle => exact sound
  | none => exact sound_open sound rfl (.refl _) rfl

theorem sound_memory (sound : registry.Sound) (name : Text) : (registry.memory name).2.Sound := by
  unfold memory
  cases registry.memories.lookup name with
  | some handle => exact sound
  | none => exact sound_open sound rfl List.perm_middle rfl

theorem sound_disk (sound : registry.Sound) : registry.disk.2.Sound :=
  ⟨fun handle held => Nat.lt_succ_of_lt (sound.issued handle held), sound.apart⟩

theorem sound_store (sound : registry.Sound) (location : Location) : (registry.store location).2.Sound := by
  cases location with
  | bucket name anonymous path => exact sound_bucket sound name anonymous
  | memory name path => exact sound_memory sound name
  | disk path => exact sound_disk sound

inductive Call where
  | bucket (name : Text) (anonymous : Bool)
  | memory (name : Text)
  | resolve (location : Text)

def called (registry : Registry) : Call → Registry
  | .bucket name anonymous => (registry.bucket name anonymous).2
  | .memory name => (registry.memory name).2
  | .resolve location =>
      match registry.resolve location with
      | .ok (_, after) => after
      | .error _ => registry

theorem sound_called (sound : registry.Sound) (call : Call) : (registry.called call).Sound := by
  cases call with
  | bucket name anonymous => exact sound_bucket sound name anonymous
  | memory name => exact sound_memory sound name
  | resolve location =>
      cases parsed : Location.parse location with
      | error fault =>
          simp only [called, resolve, parsed]
          exact sound
      | ok place =>
          simp only [called, resolve, parsed]
          exact sound_store sound place

theorem sound_calls (sound : registry.Sound) (calls : List Call) : (calls.foldl called registry).Sound := by
  induction calls generalizing registry with
  | nil => exact sound
  | cons call rest step => exact step (sound_called sound call)

theorem mem_of_lookup {name : Text} {handle : Handle} (found : registry.memories.lookup name = some handle) :
    (name, handle) ∈ registry.memories := by
  obtain ⟨before, after, split, _⟩ := List.lookup_eq_some_iff.mp found
  rw [split]
  exact List.mem_append_right _ List.mem_cons_self

theorem issued_memory (sound : registry.Sound) {name : Text} {handle : Handle}
    (found : registry.memories.lookup name = some handle) : handle.serial < registry.opened :=
  sound.issued handle (List.mem_append_right _ (List.mem_map_of_mem (mem_of_lookup found)))

theorem memory_inj (sound : registry.Sound) {name other : Text} {handle another : Handle}
    (found : registry.memories.lookup name = some handle) (found_other : registry.memories.lookup other = some another)
    (same : handle.serial = another.serial) : name = other := by
  have apart := sound.apart
  rw [handles, List.map_append, List.map_map] at apart
  have memories : (registry.memories.map (Handle.serial ∘ Prod.snd)).Nodup := by
    have right := (List.nodup_append.mp apart).2.1
    rwa [List.map_map] at right
  have pairs := List.inj_on_of_nodup_map memories (mem_of_lookup found) (mem_of_lookup found_other) same
  exact congrArg Prod.fst pairs

theorem lookup_memory (registry : Registry) (name other : Text) :
    (registry.memory name).2.memories.lookup other
      = if other = name then some (registry.memory name).1 else registry.memories.lookup other := by
  unfold memory
  cases found : registry.memories.lookup name with
  | some handle =>
      by_cases same : other = name
      · rw [if_pos same, same]
        exact found
      · rw [if_neg same]
  | none =>
      by_cases same : other = name
      · rw [if_pos same, same]
        exact List.lookup_cons_self
      · rw [if_neg same]
        dsimp only
        rw [List.lookup_cons, beq_false_of_ne same]

end ThinScan.Registry
