import Mathlib.Data.List.Induction
import PluginSandbox.ModuleRegistry
import PluginSandbox.Proofs.Checker.Fields

/-!
# Registered modules

However often names are registered, a registry has each of them once, in the order
in which they were registered first, and with what they were registered with last.
-/

namespace PluginSandbox.ModuleRegistry

def names (r : ModuleRegistry) : List String :=
  r.modules.map (·.name)

/-! ## Finding -/

section
variable {r : ModuleRegistry} {name : String}

theorem any_name_iff : r.modules.any (·.name == name) = true ↔ name ∈ r.names := by
  simp [names, List.any_eq_true]

theorem mem_of_get? {m : HostModule} (h : r.get? name = some m) : m ∈ r.modules ∧ m.name = name :=
  ⟨List.mem_of_find?_eq_some h, by simpa using List.find?_some h⟩

theorem get?_eq_none_iff : r.get? name = none ↔ name ∉ r.names := by
  rw [← any_name_iff, Bool.not_eq_true, List.any_eq_false]
  exact List.find?_eq_none

theorem get?_of_mem (h : r.names.Nodup) {m : HostModule} (hm : m ∈ r.modules) : r.get? m.name = some m := by
  cases hget : r.get? m.name with
  | none => exact absurd (List.mem_map_of_mem hm) (get?_eq_none_iff.mp hget)
  | some other =>
    obtain ⟨hother, hname⟩ := mem_of_get? hget
    rw [List.inj_on_of_nodup_map h hother hm hname]

end

/-! ## One registration -/

section
variable (r : ModuleRegistry) (name : String) (capability : Capability)

def substitute (m : HostModule) : HostModule :=
  if m.name = name then ⟨name, capability⟩ else m

theorem name_substitute (m : HostModule) : (substitute name capability m).name = m.name := by
  unfold substitute
  split
  next h => exact h.symm
  next => rfl

theorem modules_register :
    (r.register name capability).modules =
      if name ∈ r.names then r.modules.map (substitute name capability) else r.modules ++ [⟨name, capability⟩] := by
  unfold register
  simp only [any_name_iff]
  split <;> rfl

theorem names_register :
    (r.register name capability).names = if name ∈ r.names then r.names else r.names ++ [name] := by
  have hnames : (r.register name capability).names = (r.register name capability).modules.map (·.name) := rfl
  rw [hnames, modules_register]
  split
  · rw [List.map_map]
    exact List.map_congr_left fun m _ => name_substitute name capability m
  · exact List.map_append

theorem get?_register (other : String) :
    (r.register name capability).get? other = if other = name then some ⟨name, capability⟩ else r.get? other := by
  have hget : (r.register name capability).get? other =
    (r.register name capability).modules.find? (·.name == other) := rfl
  rw [hget, modules_register]
  by_cases hknown : name ∈ r.names
  · have hsame : (r.modules.map (substitute name capability)).find? (·.name == other) =
        (r.get? other).map (substitute name capability) := by
      rw [List.find?_map]
      simp only [Function.comp_def, name_substitute]
      rfl
    rw [if_pos hknown, hsame]
    cases hfound : r.get? other with
    | none =>
      have hne : other ≠ name := fun he => get?_eq_none_iff.mp hfound (he ▸ hknown)
      rw [if_neg hne]
      rfl
    | some m =>
      obtain ⟨-, rfl⟩ := mem_of_get? hfound
      exact apply_ite some ..
  · rw [if_neg hknown, List.find?_append]
    show (r.get? other).or _ = _
    by_cases ho : other = name
    · subst ho
      rw [get?_eq_none_iff.mpr hknown]
      simp
    · simp [ho, Ne.symm ho]

end

/-! ## All registrations -/

def latest? (calls : List HostModule) (name : String) : Option HostModule :=
  (calls.filter (·.name = name)).getLast?

theorem latest?_concat (calls : List HostModule) (m : HostModule) (name : String) :
    latest? (calls ++ [m]) name = if name = m.name then some m else latest? calls name := by
  unfold latest?
  by_cases h : name = m.name
  · simp [h]
  · simp [h, Ne.symm h]

theorem ofList_concat (calls : List HostModule) (m : HostModule) :
    ofList (calls ++ [m]) = (ofList calls).register m.name m.capability :=
  List.foldl_concat ..

theorem get?_ofList (calls : List HostModule) (name : String) : (ofList calls).get? name = latest? calls name := by
  induction calls using List.reverseRecOn with
  | nil => rfl
  | append_singleton calls m ih => rw [ofList_concat, get?_register, latest?_concat, ih]

theorem names_ofList_eq_foldl (calls : List HostModule) :
    (ofList calls).names =
      (calls.map (·.name)).foldl (fun names name => if name ∈ names then names else names ++ [name]) [] := by
  rw [List.foldl_map]
  exact (List.foldl_hom names fun r m => (names_register r m.name m.capability).symm).symm

/-- What a registry has is told by the calls that made it. -/
structure ToldBy (r : ModuleRegistry) (calls : List HostModule) : Prop where
  distinct : r.names.Nodup
  inOrder : r.names = (calls.map (·.name)).eraseDups
  latest : ∀ m ∈ r.modules, latest? calls m.name = some m
  get? : ∀ name, r.get? name = latest? calls name

theorem toldBy_ofList (calls : List HostModule) : (ofList calls).ToldBy calls := by
  have hdistinct : (ofList calls).names.Nodup := by
    rw [names_ofList_eq_foldl]
    exact nodup_foldl_add (fun _ _ => rfl) _ [] List.nodup_nil
  refine ⟨hdistinct, ?_, fun m hm => ?_, get?_ofList calls⟩
  · rw [names_ofList_eq_foldl, foldl_add_eq fun _ _ => rfl]
    simp
  · rw [← get?_ofList]
    exact get?_of_mem hdistinct hm

end PluginSandbox.ModuleRegistry
