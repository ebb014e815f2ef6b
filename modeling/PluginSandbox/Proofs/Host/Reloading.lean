import PluginSandbox.Proofs.Checker.Questions
import PluginSandbox.Proofs.Host.Failures

/-!
# Reloading

Whoever still holds the checker of a plugin that was unloaded holds nothing
worth having, and what waited on its worker never begins. A plugin that is
loaded again is what its first request makes it: neither earlier reloads nor
what was done to its earlier sandboxes leave a trace on it.
-/

namespace PluginSandbox

variable {σ : Type} {interp : Interpreter σ}

/-! ## What is taken away -/

/-- However `i` came about, nothing has been chosen on the way to `j`; and while it is `bare`, `j`
may do nothing. -/
structure Incarnation.Revoked (interp : Interpreter σ) (bare : Prop) (i j : Incarnation σ) : Prop where
  history : ∀ c : Chronicle σ, c.now = i →
    ∃ c', Chronicle.Steps interp c c' ∧ c'.now = j ∧ c'.begun = c.begun
  powerless : bare → j.sandbox.checker.Powerless

theorem Incarnation.Withdrawn.revoked {bare : Prop} {i j : Incarnation σ} (h : i.Withdrawn interp bare j) :
    i.Revoked interp bare j where
  history := fun _ hc => h.history hc
  powerless := fun hb => Checker.powerless_of_granted_eq_nil (h.granted hb)

namespace Host

variable {h h' : Host σ} {plugin : String}

theorem Run.withdrawnAt_after {r : Run σ} (hs : r.host.Sound) {bare : Prop} {i : Incarnation σ} {handle : Handle}
    (hw : r.host.WithdrawnAt interp bare i handle) {deeds : List (Deed σ)}
    (hd : bare → ∀ d ∈ deeds, d.GrantsNothing handle) :
    (r.after interp deeds).host.WithdrawnAt interp bare i handle := by
  refine (after_keep interp (P := fun r => r.host.Sound ∧ r.host.WithdrawnAt interp bare i handle)
    (fun d hm r hr => ?_) ⟨hs, hw⟩).2
  exact ⟨Run.sound_undergo hr.1 d, hr.2.undergo hr.1 fun hb => hd hb d hm⟩

theorem withdrawnAt_perform (hs : h.Sound) {l : Loaded} (hl : h.find plugin = .ok l) {i : Incarnation σ}
    (hi : h.fleet.get? l.handle = some i) {op : Op σ} (hop : op.unloads plugin = true) (bare : Prop) :
    (h.perform interp op).2.WithdrawnAt interp bare i l.handle := by
  obtain ⟨h₁, hbefore, hfind, -, hget, hafter⟩ := changes_unloads interp hs hl hop
  have hs₁ := hbefore.sound hs
  have htorn : (h₁.tearDown interp plugin l.handle).WithdrawnAt interp bare i l.handle :=
    withdrawn_tearDown bare plugin (hget.trans hi)
  exact (hafter.keep (fun _ => WithdrawnAt.change) (hs₁.tearDown hfind) htorn).2

/-! ## What is given back -/

/-- The plugin is as one that was never loaded before, and the others are as they were. -/
structure Restored (h : Host σ) (plugin : String) (requested : PermissionSet) (now : Nat) (h' : Host σ) : Prop where
  incarnation : ∃ s, h'.incarnation plugin = .ok {
    sandbox := { h.sandboxFor plugin requested with monitor := .start (h.policy.limitsFor plugin) now }
    state := s
    worker := .start plugin h.policy.effectiveQueueCapacity }
  modules : h'.exposedModules plugin = .ok (h.modules.exposedTo (h.sandboxFor plugin requested).checker)
  unregistered : ∀ r ∈ h'.registrations, r.plugin ≠ plugin
  spares : h.Spares plugin h'

/-- Of the sandbox that a plugin would get only the clock of the monitor goes on. -/
theorem sandboxFor_tearDown (h : Host σ) (plugin : String) (handle : Handle) (requested : PermissionSet) :
    (h.tearDown interp plugin handle).sandboxFor plugin requested =
      { h.sandboxFor plugin requested with
        monitor := .start (h.policy.limitsFor plugin) (h.tearDown interp plugin handle).scene.now } := by
  obtain ⟨late, hcwd, heq⟩ := h.tearDown_eq interp plugin handle
  rw [heq]
  unfold sandboxFor
  dsimp only
  rw [hcwd]

theorem restored_load (hs : h.Sound) (hk : h.Keyed) {l : Loaded} (hl : h.find plugin = .ok l) {requested : PermissionSet}
    {factory : Factory σ} (hload : (h.tearDown interp plugin l.handle).load plugin requested factory = (.ok (), h')) :
    h.Restored plugin requested (h.tearDown interp plugin l.handle).scene.now h' := by
  have htorn : h.Spares plugin (h.tearDown interp plugin l.handle) := spares_tearDown hs hk hl
  have hspares : h.Spares plugin h' := htorn.load (hs.tearDown hl) hload
  obtain ⟨s, hincarnation⟩ := incarnation_load hload
  rw [sandboxFor_tearDown, htorn.policy] at hincarnation
  refine ⟨⟨s, hincarnation⟩, ?_, ?_, hspares⟩
  · rw [exposedModules, hincarnation, hspares.modules]
    rfl
  · intro r hr
    obtain ⟨-, -, i, -, rfl⟩ := load_eq_ok hload
    have hkept : r ∈ (h.tearDown interp plugin l.handle).registrations := hr
    rw [registrations_tearDown, List.mem_filter, bne_iff_ne] at hkept
    exact hkept.2

/-! ## Reachable hosts -/

theorem life_append (interp : Interpreter σ) (h : Host σ) (deeds more : List (Deed σ)) :
    life interp h (deeds ++ more) = (life interp h deeds).after interp more :=
  List.foldl_append

/-- **Reloading.** Whatever unloads a plugin revokes the incarnation it had, and it stays revoked
whatever is done later. A reload that succeeds is an unload and a load with the request that the
plugin was first loaded with, and restores what that gives. -/
theorem reload_restores_life (interp : Interpreter σ) (policy : Policy) (modules : ModuleRegistry)
    (values : List (String × Json)) (graceMs : Nat) (scene : Scene) (deeds : List (Deed σ)) :
    let fresh : Host σ := start policy modules (.ofList values) graceMs scene
    let r := life interp fresh deeds
    ∀ plugin l, r.host.find plugin = .ok l → ∃ i, r.host.fleet.get? l.handle = some i ∧
      (∀ op later, op.unloads plugin = true →
        ∃ j, (life interp fresh (deeds ++ .op op :: later)).host.fleet.get? l.handle = some j ∧
          i.Revoked interp (∀ d ∈ later, d.GrantsNothing l.handle) j) ∧
      ∀ factory h', r.host.reload interp plugin factory = (.ok (), h') →
        ∃ requested unloaded, lastRequest plugin r.succeeded = some requested ∧
          r.host.unload interp plugin = (.ok (), unloaded) ∧ unloaded.load plugin requested factory = (.ok (), h') ∧
          r.host.Restored plugin requested unloaded.scene.now h' := by
  intro fresh r plugin l hl
  obtain ⟨hs, hk, hremembers⟩ := coherent_life interp policy modules values graceMs scene deeds
  obtain ⟨i, hi⟩ := hs.present plugin l (mem_of_find hl)
  refine ⟨i, hi, fun op later hop => ?_, fun factory h' hreload => ?_⟩
  · have hwithdrawn : (r.undergo interp (.op op)).host.WithdrawnAt interp
        (∀ d ∈ later, d.GrantsNothing l.handle) i l.handle := by
      rw [Run.undergo, Run.host_step]
      exact withdrawnAt_perform hs hl hi hop _
    have hsound : (r.undergo interp (.op op)).host.Sound := Run.sound_undergo hs (.op op)
    obtain ⟨j, hj, hij⟩ := Run.withdrawnAt_after hsound hwithdrawn id
    refine ⟨j, ?_, hij.revoked⟩
    rw [life_append]
    exact hj
  · have hload := (reload_of_find hl factory).symm.trans hreload
    exact ⟨l.requested, _, hremembers plugin l (mem_of_find hl), unload_of_find hl, hload,
      restored_load hs hk hl hload⟩

/-- `p` has been loaded anew before, was granted the shell since, and has a notice waiting. -/
theorem reload_restores_life_granted :
    let asked : PermissionSet := { capabilities := [.events] }
    let factory := Script.Recipe.factory {}
    let deeds : List (Deed Script) :=
      [.op (.load "p" asked factory), .op (.reload "p" factory),
        .touch 1 fun box => { box with checker := box.checker.grant .shell }, .submit 1 (.notice "late" .null)]
    let h := (life Script.interpreter (start {} .standard (.ofList []) 2000 {}) deeds).host
    ∃ i j h', h.fleet.get? 1 = some i ∧ i.sandbox.checker.has .shell = true ∧ i.worker.waiting.length = 1 ∧
      (life Script.interpreter (start {} .standard (.ofList []) 2000 {})
        (deeds ++ [.op (.reload "p" factory)])).host.fleet.get? 1 = some j ∧
      i.Revoked Script.interpreter True j ∧ h.reload Script.interpreter "p" factory = (.ok (), h') ∧
      ∃ now, h.Restored "p" asked now h' := by
  intro asked factory deeds h
  have hl : h.find "p" = .ok ⟨1, asked⟩ := by decide +kernel
  obtain ⟨i, hi, hrevoked, hrestored⟩ :=
    reload_restores_life Script.interpreter {} .standard [] 2000 {} deeds "p" _ hl
  obtain ⟨j, hj, hij⟩ := hrevoked (.reload "p" factory) [] (by decide)
  have hsucceeds : (h.reload Script.interpreter "p" factory).1 = .ok () := by decide +kernel
  have hreload : h.reload Script.interpreter "p" factory = (.ok (), (h.reload Script.interpreter "p" factory).2) := by
    rw [← hsucceeds]
  obtain ⟨requested, unloaded, hrequested, -, -, hh'⟩ := hrestored factory _ hreload
  have hasked : some requested = some asked := hrequested.symm.trans (by decide +kernel)
  cases hasked
  have hshell : (h.fleet.get? 1).map (·.sandbox.checker.has .shell) = some true := by decide +kernel
  have hwaits : (h.fleet.get? 1).map (·.worker.waiting.length) = some 1 := by decide +kernel
  have hget : h.fleet.get? 1 = some i := hi
  rw [hget] at hshell hwaits
  exact ⟨i, j, _, hi, Option.some.inj hshell, Option.some.inj hwaits, hj,
    ⟨hij.history, fun _ => hij.powerless (by simp)⟩, hreload, _, hh'⟩

end Host

end PluginSandbox
