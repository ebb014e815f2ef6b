import PluginSandbox.Proofs.Host.Lives

/-!
# The incarnations of a host

Every incarnation in the fleet of a host, loaded or not, comes about by the
steps of a chronicle, whatever the host has done.
-/

namespace PluginSandbox

variable {σ : Type} {interp : Interpreter σ}

/-! ## Fleets -/

namespace Fleet

def Lived (interp : Interpreter σ) (f : Fleet σ) : Prop :=
  ∀ (n : Nat) (i : Incarnation σ), f.members[n]? = some i → i.Lived interp

variable {f f' : Fleet σ}

theorem Lived.leadsTo (hf : f.Lived interp)
    (h : ∀ handle j, f'.get? handle = some j → ∃ i, f.get? handle = some i ∧ i.LeadsTo interp j) :
    f'.Lived interp := by
  intro handle j hj
  obtain ⟨i, hi, hij⟩ := h handle j hj
  exact (hf handle i hi).leadsTo hij

theorem Lived.of_map (hf : f.Lived interp) {change : Handle → Incarnation σ → Incarnation σ}
    (hget : ∀ handle, f'.get? handle = (f.get? handle).map (change handle))
    (hc : ∀ handle (i : Incarnation σ), i.LeadsTo interp (change handle i)) : f'.Lived interp := by
  refine hf.leadsTo fun handle j hj => ?_
  rw [hget] at hj
  obtain ⟨i, hi, rfl⟩ := Option.map_eq_some_iff.mp hj
  exact ⟨i, hi, hc handle i⟩

theorem Lived.acted (hf : f.Lived interp) (ha : f.Acted interp f') : f'.Lived interp := by
  refine hf.leadsTo fun handle j hj => ?_
  obtain ⟨i, acts, hi, hroutine, rfl⟩ := ha.exists_of_get? hj
  exact ⟨i, hi, i.leadsTo_after hroutine⟩

theorem Lived.add (hf : f.Lived interp) {i : Incarnation σ} (hi : i.Lived interp) : (f.add i).2.Lived interp := by
  intro n j hj
  rcases List.mem_append.mp (List.mem_of_getElem? hj) with hm | hm
  · obtain ⟨m, hm⟩ := List.mem_iff_getElem?.mp hm
    exact hf m j hm
  · exact List.mem_singleton.mp hm ▸ hi

end Fleet

/-! ## Hosts -/

namespace Host

theorem lived_change {h h' : Host σ} (hc : Change interp h h') (hl : h.fleet.Lived interp) :
    h'.fleet.Lived interp := by
  cases hc with
  | acted ha => exact hl.acted ha.fleet
  | confined path =>
    refine hl.of_map (h.get?_setWorkspace path) fun handle i => ?_
    split
    next => exact i.leadsTo_touch _
    next => exact .refl i
  | loaded hload =>
    obtain ⟨-, -, i, hi, rfl⟩ := load_eq_ok hload
    exact hl.add (Incarnation.lived_start? hi)
  | @tornDown plugin l _ =>
    obtain ⟨late, -, heq⟩ := h.tearDown_eq interp plugin l.handle
    rw [heq]
    refine hl.of_map (fun other => h.fleet.get?_modify l.handle other _) fun other i => ?_
    split
    next =>
      have hsettled : i.LeadsTo interp (i.stopped.settle interp h.scene) :=
        i.leadsTo_stop.trans (i.stopped.leadsTo_settle interp h.scene)
      exact hsettled.trans (Incarnation.leadsTo_touch _ _)
    next => exact .refl i

/-- **Every incarnation in a run of a host comes about by steps of a chronicle.** -/
theorem lived_run (interp : Interpreter σ) (policy : Policy) (modules : ModuleRegistry) (config : ConfigStore)
    (graceMs : Nat) (scene : Scene) (ops : List (Op σ)) :
    (run interp (start policy modules config graceMs scene) ops).host.fleet.Lived interp := by
  refine (keep_run interp (P := (·.fleet.Lived interp)) (fun _ => lived_change) (sound_start ..) ?_ ops).2
  intro n i hi
  cases hi

end Host

end PluginSandbox
