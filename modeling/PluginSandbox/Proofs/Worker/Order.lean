import PluginSandbox.Proofs.Worker.Moves

/-!
# The order of jobs

Jobs are chosen in the order in which they were accepted, each once and one at
a time, however they end. After the stop flag is set none is chosen, and what a
worker that is gone has counted is what it never chose.
-/

namespace PluginSandbox.Chronicle

variable {σ : Type} {interp : Interpreter σ} {c c' : Chronicle σ}

/-- Every accepted job is in one place, and the places are in order. -/
structure Orderly (c : Chronicle σ) : Prop where
  order : c.accepted = c.begun ++ c.thrown ++ c.waiting
  turns : c.begun = c.ended.map (·.1) ++ c.now.worker.stage.underway
  counted : c.now.worker.discarded = c.thrown.length
  isOver : c.thrown ≠ [] → c.now.worker.stage.isOver = true
  emptied : c.now.worker.left = true → c.now.worker.queue = []

theorem orderly_start (plugin : String) (capacity : Nat) (sandbox : Sandbox) (state : σ) :
    (start plugin capacity sandbox state).Orderly :=
  ⟨rfl, rfl, rfl, fun h => absurd rfl h, fun _ => rfl⟩

theorem Orderly.step (ho : c.Orderly) (h : Step interp c c') : c'.Orderly := by
  obtain ⟨sent, chosen, thrown, ended, ha, hb, ht, he, hm⟩ := h.moves
  -- nothing is chosen once something was discarded
  have hswap : c.thrown ++ chosen = chosen ++ c.thrown := by
    by_cases hnil : c.thrown = []
    · rw [hnil, List.nil_append, List.append_nil]
    · rw [(hm.isOver (ho.isOver hnil)).2, List.nil_append, List.append_nil]
  exact {
    order := calc
      c'.accepted = c.begun ++ c.thrown ++ (c.waiting ++ sent) := by rw [ha, ho.order, List.append_assoc]
      _ = c.begun ++ (c.thrown ++ chosen) ++ thrown ++ c'.waiting := by
        rw [waiting, hm.jobs]
        simp only [List.append_assoc]
        rfl
      _ = c'.begun ++ c'.thrown ++ c'.waiting := by
        rw [hswap, hb, ht]
        simp only [List.append_assoc]
    turns := by
      rw [hb, ho.turns, he, List.map_append, List.append_assoc, List.append_assoc, hm.underway]
    counted := by rw [hm.discarded, ho.counted, ht, List.length_append]
    isOver := by
      intro hne
      rw [ht] at hne
      by_cases hnil : c.thrown = []
      · rw [hnil, List.nil_append] at hne
        exact hm.thrown hne
      · exact (hm.isOver (ho.isOver hnil)).1
    emptied := hm.emptied ho.emptied }

theorem Steps.orderly (h : Steps interp c c') (ho : c.Orderly) : c'.Orderly := by
  induction h with
  | refl => exact ho
  | tail _ hs ih => exact ih.step hs

theorem Reachable.orderly (h : Reachable interp c) : c.Orderly := by
  obtain ⟨plugin, capacity, sandbox, state, hs⟩ := h
  exact hs.orderly (orderly_start plugin capacity sandbox state)

theorem length_underway_le_one (s : Stage) : s.underway.length ≤ 1 := by
  cases s <;> simp [Stage.underway]

/-! ## After the stop flag -/

theorem Step.begun_of_stopping (h : Step interp c c') (hs : c.now.worker.stopping = true) :
    c'.now.worker.stopping = true ∧ c'.begun = c.begun := by
  obtain ⟨sent, chosen, thrown, ended, _, hb, _, _, hm⟩ := h.moves
  obtain ⟨hs', hnil⟩ := hm.stopping hs
  exact ⟨hs', by rw [hb, hnil, List.append_nil]⟩

theorem Steps.begun_of_stopping (h : Steps interp c c') (hs : c.now.worker.stopping = true) :
    c'.now.worker.stopping = true ∧ c'.begun = c.begun := by
  induction h with
  | refl => exact ⟨hs, rfl⟩
  | tail _ hstep ih =>
    obtain ⟨hs', hb⟩ := hstep.begun_of_stopping ih.1
    exact ⟨hs', hb.trans ih.2⟩

/-! ## The end -/

theorem underway_of_left {w : Worker} (h : w.left = true) : w.stage.held = [] ∧ w.stage.underway = [] := by
  unfold Worker.left at h
  split at h
  next hs => rw [hs]; exact ⟨rfl, rfl⟩
  next => cases h

theorem Orderly.waiting_of_left (ho : c.Orderly) (h : c.now.worker.left = true) : c.waiting = [] := by
  rw [waiting, (underway_of_left h).1, Worker.waiting, ho.emptied h]
  rfl

theorem Orderly.discarded_of_left (ho : c.Orderly) (h : c.now.worker.left = true) :
    c.now.worker.discarded + c.begun.length = c.accepted.length := by
  rw [ho.counted, ho.order, ho.waiting_of_left h, List.append_nil, List.length_append, Nat.add_comm]

end PluginSandbox.Chronicle
