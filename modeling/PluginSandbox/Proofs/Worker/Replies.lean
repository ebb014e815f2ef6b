import PluginSandbox.Proofs.Lookup
import PluginSandbox.Proofs.Worker.Results

/-!
# Replies

Where a call stands, as its ticket tells, is where its job is: it has a result
if its own run has returned it, and none will come if it was discarded, was
skipped because it had been cancelled, or panicked before its callback.
-/

namespace PluginSandbox.Chronicle

variable {σ : Type} {interp : Interpreter σ} {c : Chronicle σ}

theorem resultOf?_eq_some {p : Job × Completion} {t : Ticket} {r : CallResult} :
    resultOf? p = some (t, r) ↔ p.1.ticket? = some t ∧ p.2 = .returned r := by
  obtain ⟨job, comp⟩ := p
  cases comp with
  | returned r' =>
    simp only [resultOf?, Option.map_eq_some_iff, Prod.mk.injEq, Completion.returned.injEq]
    constructor
    · intro ⟨u, hu, he, hr⟩
      exact ⟨he ▸ hu, hr⟩
    · intro ⟨hu, hr⟩
      exact ⟨t, hu, rfl, hr⟩
  | _ => simp [resultOf?]

theorem mem_of_mem_job? {w : Worker} {job : Job} (h : job ∈ w.stage.job?.toList ++ w.waiting) :
    job ∈ w.stage.underway ∨ job ∈ w.stage.held ++ w.waiting := by
  cases hs : w.stage <;> simp_all [Stage.job?, Stage.underway, Stage.held]

theorem mem_job?_of_mem {w : Worker} {job : Job}
    (h : job ∈ w.stage.underway ∨ job ∈ w.stage.held ++ w.waiting) :
    job ∈ w.stage.job?.toList ++ w.waiting := by
  cases hs : w.stage <;> simp_all [Stage.job?, Stage.underway, Stage.held]

theorem Orderly.mem_accepted_iff (ho : c.Orderly) {job : Job} :
    job ∈ c.accepted ↔
      (∃ comp, (job, comp) ∈ c.ended) ∨ job ∈ c.now.worker.stage.underway ∨ job ∈ c.thrown ∨ job ∈ c.waiting := by
  rw [ho.order, ho.turns]
  simp

section
variable (ho : c.Orderly) (ht : c.Ticketed)

include ht in
theorem Ticketed.accepted : (tickets c.accepted).Nodup :=
  ht.nodup.sublist ((List.sublist_append_left _ _).filterMap _)

include ho ht

/-- The places of the accepted jobs as one list, with each ticket once. -/
theorem nodup_places :
    (tickets (c.ended.map (·.1)) ++
      (tickets c.now.worker.stage.underway ++ (tickets c.thrown ++ tickets c.waiting))).Nodup := by
  have h := ht.accepted
  rw [ho.order, ho.turns] at h
  simpa only [tickets, List.filterMap_append, List.append_assoc] using h

theorem completion_unique {job : Job} {t : Ticket} (hjob : job.ticket? = some t) {a b : Completion}
    (ha : (job, a) ∈ c.ended) (hb : (job, b) ∈ c.ended) : a = b := by
  have hn := (List.nodup_append.mp (nodup_places ho ht)).1
  rw [tickets, List.filterMap_map] at hn
  have hab : (job, a) = (job, b) := eq_of_nodup_filterMap hn ha hb hjob hjob
  exact congrArg Prod.snd hab

theorem not_ended_of_place {job : Job} {t : Ticket} (hjob : job.ticket? = some t)
    (hm : job ∈ c.now.worker.stage.underway ∨ job ∈ c.thrown ∨ job ∈ c.waiting) (comp : Completion) :
    (job, comp) ∉ c.ended := by
  intro he
  have hended := mem_tickets (List.mem_map_of_mem (f := Prod.fst) he) hjob
  refine (List.nodup_append.mp (nodup_places ho ht)).2.2 t hended t ?_ rfl
  rw [List.mem_append, List.mem_append]
  rcases hm with h | h | h
  · exact .inl (mem_tickets h hjob)
  · exact .inr (.inl (mem_tickets h hjob))
  · exact .inr (.inr (mem_tickets h hjob))

theorem not_thrown_of_place {job : Job} {t : Ticket} (hjob : job.ticket? = some t)
    (hm : job ∈ c.now.worker.stage.underway ∨ job ∈ c.waiting) : job ∉ c.thrown := by
  intro hthrown
  have hrest := List.nodup_append.mp (List.nodup_append.mp (nodup_places ho ht)).2.1
  rcases hm with h | h
  · exact hrest.2.2 t (mem_tickets h hjob) t (List.mem_append_left _ (mem_tickets hthrown hjob)) rfl
  · exact (List.nodup_append.mp hrest.2.1).2.2 t (mem_tickets hthrown hjob) t (mem_tickets h hjob) rfl

end

section
variable (ho : c.Orderly) (ht : c.Ticketed) {job : Job} {t : Ticket} (hm : job ∈ c.accepted)
  (hjob : job.ticket? = some t)
include ho ht hm hjob

theorem any_ticket_iff :
    (c.now.worker.stage.job?.toList ++ c.now.worker.waiting).any (·.ticket? == some t) = true ↔
      job ∈ c.now.worker.stage.underway ∨ job ∈ c.waiting := by
  rw [List.any_eq_true]
  constructor
  · intro ⟨job', hj, htk⟩
    have hplace := mem_of_mem_job? hj
    have hm' : job' ∈ c.accepted := by
      rcases hplace with h | h
      · exact ho.mem_accepted_iff.mpr (.inr (.inl h))
      · exact ho.mem_accepted_iff.mpr (.inr (.inr (.inr h)))
    rw [← eq_of_nodup_filterMap ht.accepted hm' hm (beq_iff_eq.mp htk) hjob]
    exact hplace
  · intro h
    exact ⟨job, mem_job?_of_mem h, beq_iff_eq.mpr hjob⟩

variable (he : c.Explained interp)
include he

theorem mem_results_iff (r : CallResult) : (t, r) ∈ c.now.worker.results ↔ (job, .returned r) ∈ c.ended := by
  rw [he.results, List.mem_reverse, List.mem_filterMap]
  constructor
  · intro ⟨p, hp, hr⟩
    obtain ⟨hpt, hpr⟩ := resultOf?_eq_some.mp hr
    have hpm : p.1 ∈ c.accepted := ho.mem_accepted_iff.mpr (.inl ⟨p.2, hp⟩)
    rw [← eq_of_nodup_filterMap ht.accepted hpm hm hpt hjob, ← hpr]
    exact hp
  · intro hp
    exact ⟨_, hp, resultOf?_eq_some.mpr ⟨hjob, rfl⟩⟩

theorem lookup_results_iff (r : CallResult) :
    c.now.worker.results.lookup t = some r ↔ (job, .returned r) ∈ c.ended := by
  have hmem (r' : CallResult) (h : c.now.worker.results.lookup t = some r') : (job, .returned r') ∈ c.ended :=
    (mem_results_iff ho ht hm hjob he r').mp (mem_of_lookup h)
  constructor
  · exact hmem r
  · intro h
    cases hl : c.now.worker.results.lookup t with
    | none =>
      have := List.lookup_eq_none_iff.mp hl _ ((mem_results_iff ho ht hm hjob he r).mpr h)
      simp at this
    | some r' =>
      cases completion_unique ho ht hjob (hmem r' hl) h
      rfl

theorem reply_settled_iff (r : CallResult) :
    c.now.worker.reply t = .settled r ↔ (job, .returned r) ∈ c.ended := by
  rw [← lookup_results_iff ho ht hm hjob he]
  unfold Worker.reply
  cases c.now.worker.results.lookup t with
  | some r' => simp
  | none =>
    dsimp only
    split <;> simp

theorem reply_of_not_returned (h : ∀ r, (job, .returned r) ∉ c.ended) :
    (c.now.worker.reply t = .pending ↔ job ∈ c.now.worker.stage.underway ∨ job ∈ c.waiting) ∧
      (c.now.worker.reply t = .dropped ↔ ¬(job ∈ c.now.worker.stage.underway ∨ job ∈ c.waiting)) := by
  have hnone : c.now.worker.results.lookup t = none :=
    Option.eq_none_iff_forall_ne_some.mpr fun r hr => h r ((lookup_results_iff ho ht hm hjob he r).mp hr)
  rw [← any_ticket_iff ho ht hm hjob]
  unfold Worker.reply
  rw [hnone]
  dsimp only
  split
  next h => simp [h]
  next h => simp [h]

theorem reply_pending_iff :
    c.now.worker.reply t = .pending ↔ job ∈ c.now.worker.stage.underway ∨ job ∈ c.waiting := by
  constructor
  · intro h
    refine (reply_of_not_returned ho ht hm hjob he fun r hr => ?_).1.mp h
    rw [(reply_settled_iff ho ht hm hjob he r).mpr hr] at h
    cases h
  · intro h
    refine (reply_of_not_returned ho ht hm hjob he fun r => ?_).1.mpr h
    exact not_ended_of_place ho ht hjob (h.imp_right .inr) _

theorem reply_dropped_iff :
    c.now.worker.reply t = .dropped ↔
      job ∈ c.thrown ∨ ∃ comp, (job, comp) ∈ c.ended ∧ ∀ r, comp ≠ .returned r := by
  constructor
  · intro h
    rcases ho.mem_accepted_iff.mp hm with ⟨comp, hended⟩ | hplace | hthrown | hplace
    · refine .inr ⟨comp, hended, fun r hr => ?_⟩
      subst hr
      rw [(reply_settled_iff ho ht hm hjob he r).mpr hended] at h
      cases h
    · rw [(reply_pending_iff ho ht hm hjob he).mpr (.inl hplace)] at h
      cases h
    · exact .inl hthrown
    · rw [(reply_pending_iff ho ht hm hjob he).mpr (.inr hplace)] at h
      cases h
  · intro h
    rcases h with hthrown | ⟨comp, hended, hcomp⟩
    · refine (reply_of_not_returned ho ht hm hjob he fun r => ?_).2.mpr fun hplace => ?_
      · exact not_ended_of_place ho ht hjob (.inr (.inl hthrown)) _
      · exact not_thrown_of_place ho ht hjob hplace hthrown
    · refine (reply_of_not_returned ho ht hm hjob he fun r hr => ?_).2.mpr fun hplace => ?_
      · exact hcomp r (completion_unique ho ht hjob hended hr)
      · exact not_ended_of_place ho ht hjob (hplace.imp_right .inr) comp hended

end

end PluginSandbox.Chronicle
