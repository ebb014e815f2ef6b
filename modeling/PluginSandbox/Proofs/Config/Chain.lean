import PluginSandbox.Proofs.Config.Session

/-!
# Chains of changes

What reaches a watcher is a history: each change begins with the value that the
one before it left, from the value that was there when the watcher registered.
-/

namespace PluginSandbox.ConfigStore

variable {σ : Type}

structure Change where
  old : Option Json
  new : Json

def Change.payload (key : String) (c : Change) : Json :=
  change key c.old c.new

/-- Each change begins with the value that the one before it left, the first with `v`, and the last
leaves `v'`. -/
def Leads : Option Json → List Change → Option Json → Prop
  | v, [], v' => v = v'
  | v, c :: cs, v' => c.old = v ∧ Leads (some c.new) cs v'

namespace Session

/-! ## The changes of a run -/

def change? (s : Session σ) (key : String) : Op σ → Option Change
  | .set k value => if k = key ∧ s.store.get? key ≠ some value then some ⟨s.store.get? key, value⟩ else none
  | _ => none

def changes (s : Session σ) (key : String) : List (Op σ) → List Change
  | [] => []
  | op :: ops => (s.change? key op).toList ++ (s.step op).changes key ops

theorem get?_step_of_change? {s : Session σ} {key : String} {op : Op σ} {c : Change}
    (h : s.change? key op = some c) : c.old = s.store.get? key ∧ (s.step op).store.get? key = some c.new := by
  unfold change? at h
  split at h
  next k value =>
    split at h
    next hk =>
      cases h
      refine ⟨rfl, (s.store.get?_set k value s.fleet key).trans ?_⟩
      rw [if_pos hk.1.symm]
    · cases h
  · cases h

theorem get?_step_of_change?_eq_none {s : Session σ} {key : String} {op : Op σ}
    (h : s.change? key op = none) : (s.step op).store.get? key = s.store.get? key := by
  cases op with
  | set k value =>
    refine (s.store.get?_set k value s.fleet key).trans ?_
    by_cases hk : key = k
    · rw [if_pos hk]
      by_contra hne
      rw [change?, if_pos ⟨hk.symm, Ne.symm hne⟩] at h
      cases h
    · rw [if_neg hk]
  | _ => rfl

theorem leads_changes (s : Session σ) (key : String) (ops : List (Op σ)) :
    Leads (s.store.get? key) (s.changes key ops) ((s.after ops).store.get? key) := by
  induction ops generalizing s with
  | nil => rfl
  | cons op ops ih =>
    have hrest := ih (s.step op)
    unfold changes
    cases h : s.change? key op with
    | none =>
      rw [get?_step_of_change?_eq_none h] at hrest
      exact hrest
    | some c =>
      obtain ⟨hold, hnew⟩ := get?_step_of_change? h
      rw [hnew] at hrest
      exact ⟨hold, hrest⟩

/-! ## A watcher and its key -/

section
variable {s : Session σ} (h : s.Sound) {r : Registration} {key : String}
include h

theorem Sound.mem_watchers_step (hr : r ∈ s.watchers key) (op : Op σ) :
    r ∈ (s.step op).watchers key ↔ op.drops r = false := by
  cases op with
  | set k value =>
    rw [watchers_set]
    exact iff_of_true hr rfl
  | get k => exact iff_of_true hr rfl
  | watch plugin k callback handle =>
    rw [watchers_watch]
    refine iff_of_true ?_ rfl
    split
    · exact List.mem_append_left _ hr
    · exact hr
  | unwatch id =>
    rw [watchers_unwatch h.keyed, List.mem_filter, and_iff_right hr, Op.drops, bne_iff_ne,
      decide_eq_false_iff_not, ne_comm]
  | unwatchPlugin plugin =>
    rw [watchers_unwatchPlugin h.keyed, List.mem_filter, and_iff_right hr, Op.drops, bne_iff_ne,
      decide_eq_false_iff_not, ne_comm]
  | between fleet => exact iff_of_true hr rfl

theorem Sound.not_mem_watchers_step (hissued : r.id.value < s.nextId) (hr : ∀ k, r ∉ s.watchers k) (op : Op σ)
    (k : String) : r ∉ (s.step op).watchers k := by
  cases op with
  | set k' value => rw [watchers_set]; exact hr k
  | get k' => exact hr k
  | watch plugin k' callback handle =>
    rw [watchers_watch]
    split
    · intro hmem
      rcases List.mem_append.mp hmem with hmem | hmem
      · exact hr k hmem
      · cases List.mem_singleton.mp hmem
        exact absurd hissued (Nat.lt_irrefl _)
    · exact hr k
  | unwatch id =>
    rw [watchers_unwatch h.keyed]
    exact fun hmem => hr k (List.mem_of_mem_filter hmem)
  | unwatchPlugin plugin =>
    rw [watchers_unwatchPlugin h.keyed]
    exact fun hmem => hr k (List.mem_of_mem_filter hmem)
  | between fleet => exact hr k

theorem Sound.not_mem_watchers_of_drops {op : Op σ} (hop : op.drops r = true) (k : String) :
    r ∉ (s.step op).watchers k := by
  intro hmem
  have hin : r ∈ s.watchers k := by
    cases op with
    | unwatch id => exact List.mem_of_mem_filter (watchers_unwatch h.keyed id k ▸ hmem)
    | unwatchPlugin plugin => exact List.mem_of_mem_filter (watchers_unwatchPlugin h.keyed plugin k ▸ hmem)
    | _ => cases hop
  have hkept := (h.mem_watchers_step hin op).mp hmem
  rw [hop] at hkept
  cases hkept

/-! ## What reaches a watcher -/

omit h in
theorem toldTo_set (s : Session σ) (k : String) (value : Json) (r : Registration) :
    (s.step (.set k value)).toldTo r =
      s.toldTo r ++ (s.store.tells k value s.fleet).filter (·.handler = r) :=
  List.filter_append _ _

omit h in
theorem change?_set (s : Session σ) (k : String) (value : Json) (key : String) :
    s.change? key (.set k value) =
      if k = key ∧ s.store.get? key ≠ some value then some ⟨s.store.get? key, value⟩ else none :=
  rfl

theorem Sound.toldTo_step (hr : r ∈ s.watchers key) (op : Op σ) :
    ((s.step op).toldTo r).map (·.payload) =
      (s.toldTo r).map (·.payload) ++ (s.change? key op).toList.map (·.payload key) := by
  cases op with
  | set k value =>
    rw [toldTo_set, List.map_append, change?_set]
    congr 1
    by_cases hk : k = key
    · subst hk
      rw [tells_filter_of_mem k value s.fleet hr (h.nodup k)]
      by_cases hv : s.store.get? k = some value
      · rw [if_pos hv, if_neg fun hc => hc.2 hv]
        rfl
      · rw [if_neg hv, if_pos ⟨rfl, hv⟩]
        rfl
    · rw [tells_filter_of_not_mem k value s.fleet fun hmem => hk (h.apart hmem hr), if_neg fun hc => hk hc.1]
      rfl
  | _ => exact (List.append_nil _).symm

omit h in
theorem toldTo_step_of_not_mem (hr : ∀ k, r ∉ s.watchers k) (op : Op σ) :
    (s.step op).toldTo r = s.toldTo r := by
  cases op with
  | set k value =>
    rw [toldTo_set, tells_filter_of_not_mem k value s.fleet (hr k), List.append_nil]
  | _ => rfl

omit h in
theorem nextId_step (s : Session σ) (op : Op σ) : s.nextId ≤ (s.step op).nextId := by
  cases op with
  | watch => exact Nat.le_succ _
  | _ => exact Nat.le_refl _

theorem Sound.after_of_not_mem (hissued : r.id.value < s.nextId) (hr : ∀ k, r ∉ s.watchers k)
    (ops : List (Op σ)) : (s.after ops).toldTo r = s.toldTo r ∧ ∀ k, r ∉ (s.after ops).watchers k := by
  induction ops generalizing s with
  | nil => exact ⟨rfl, hr⟩
  | cons op ops ih =>
    have hrest := ih (h.step op) (Nat.lt_of_lt_of_le hissued (s.nextId_step op))
      (h.not_mem_watchers_step hissued hr op)
    exact ⟨hrest.1.trans (toldTo_step_of_not_mem hr op), hrest.2⟩

theorem Sound.mem_watchers_after (hr : r ∈ s.watchers key) (ops : List (Op σ)) :
    r ∈ (s.after ops).watchers key ↔ ∀ op ∈ ops, op.drops r = false := by
  induction ops generalizing s with
  | nil => exact iff_of_true hr fun _ hop => by cases hop
  | cons op ops ih =>
    rw [List.forall_mem_cons]
    cases hop : op.drops r with
    | false =>
      rw [and_iff_right rfl]
      exact ih (h.step op) ((h.mem_watchers_step hr op).mpr hop)
    | true =>
      refine iff_of_false ?_ fun hall => by cases hall.1
      exact ((h.step op).after_of_not_mem (Nat.lt_of_lt_of_le (h.issued hr) (s.nextId_step op))
        (h.not_mem_watchers_of_drops hop) ops).2 key

theorem Sound.toldTo_after (hr : r ∈ s.watchers key) (ops : List (Op σ)) :
    ((s.after ops).toldTo r).map (·.payload) =
      (s.toldTo r).map (·.payload) ++
        (s.changes key (ops.takeWhile fun op => !op.drops r)).map (·.payload key) := by
  induction ops generalizing s with
  | nil => exact (List.append_nil _).symm
  | cons op ops ih =>
    rw [List.takeWhile_cons]
    cases hop : op.drops r with
    | false =>
      have hrest := ih (h.step op) ((h.mem_watchers_step hr op).mpr hop)
      rw [h.toldTo_step hr op] at hrest
      refine hrest.trans ?_
      rw [if_pos (by rfl), changes, List.map_append, List.append_assoc]
    | true =>
      have hdropped := ((h.step op).after_of_not_mem (Nat.lt_of_lt_of_le (h.issued hr) (s.nextId_step op))
        (h.not_mem_watchers_of_drops hop) ops).1
      -- what drops a watcher writes nothing
      have hsame : s.change? key op = none := by
        cases op <;> first | rfl | cases hop
      have htold := h.toldTo_step hr op
      rw [hsame] at htold
      rw [if_neg (by exact Bool.false_ne_true)]
      exact (congrArg (List.map (·.payload)) hdropped).trans htold

end

/-! ## Over whole runs -/

structure Writes (s : Session σ) (key : String) (value : Json) : Prop where
  quiet : s.store.get? key = some value → s.store.set key value s.fleet = ({}, s.store, s.fleet)
  fires : s.store.get? key ≠ some value →
    (s.store.tells key value s.fleet).map (·.handler) = s.watchers key ∧
      ∀ a ∈ s.store.tells key value s.fleet, a.payload = change key (s.store.get? key) value
  counts : s.store.get? key ≠ some value →
    (s.store.set key value s.fleet).1.queued + (s.store.set key value s.fleet).1.failures.length =
      s.store.watcherCount key
  report : (s.store.set key value s.fleet).1 = .on (s.store.tells key value s.fleet)
  stored : (s.store.set key value s.fleet).2.1.get? key = some value
  queues : ∀ handle, (s.store.set key value s.fleet).2.2.get? handle = (s.fleet.get? handle).map
    (·.enqueue ((s.store.tells key value s.fleet).filterMap (·.message? handle)))
  elsewhere : ∀ other ≠ key, ∀ r ∈ s.watchers other, ∀ a ∈ s.store.tells key value s.fleet, a.handler ≠ r

theorem Sound.writes {s : Session σ} (h : s.Sound) (key : String) (value : Json) : s.Writes key value where
  quiet := set_of_eq s.fleet
  fires := by
    intro hne
    refine ⟨?_, fun a => payload_of_mem_tells⟩
    rw [map_handler_tells, if_neg hne]
    rfl
  counts := by
    intro hne
    rw [report_set, DispatchReport.on_total, ← List.length_map (f := (·.handler)), map_handler_tells, if_neg hne]
    rfl
  report := s.store.report_set key value s.fleet
  stored := (s.store.get?_set key value s.fleet key).trans (if_pos rfl)
  queues := s.store.get?_fleet_set key value s.fleet
  elsewhere := fun _ hother _ hr _ ha heq => hother (h.apart hr (heq ▸ handler_of_mem_tells ha))

/-- From a session in which `r` watches `key`, and has been told nothing, what `ops` tell it. -/
structure Follows (s : Session σ) (key : String) (r : Registration) (ops : List (Op σ)) : Prop where
  registered : ∀ taken, taken <+: ops →
    (r ∈ (s.after taken).watchers key ↔ ∀ op ∈ taken, op.drops r = false)
  told : ((s.after ops).toldTo r).map (·.payload) =
    (s.changes key (ops.takeWhile fun op => !op.drops r)).map (·.payload key)
  received : (∀ a ∈ (s.after ops).toldTo r, a.isAccepted = true) →
    (s.after ops).toldTo r =
      (s.changes key (ops.takeWhile fun op => !op.drops r)).map fun c => ⟨r, c.payload key, none⟩
  chained : Leads (s.store.get? key) (s.changes key (ops.takeWhile fun op => !op.drops r))
    ((s.after (ops.takeWhile fun op => !op.drops r)).store.get? key)

theorem Sound.follows {s : Session σ} (h : s.Sound) {r : Registration} {key : String}
    (hr : r ∈ s.watchers key) (hnew : s.toldTo r = []) (ops : List (Op σ)) : s.Follows key r ops := by
  have htold : ((s.after ops).toldTo r).map (·.payload) =
      (s.changes key (ops.takeWhile fun op => !op.drops r)).map (·.payload key) := by
    rw [h.toldTo_after hr, hnew]
    rfl
  refine ⟨fun taken _ => h.mem_watchers_after hr taken, htold, ?_, s.leads_changes key _⟩
  intro haccepted
  have hself : (s.after ops).toldTo r = ((s.after ops).toldTo r).map fun a => ⟨r, a.payload, none⟩ := by
    refine (List.map_id _).symm.trans (List.map_congr_left fun a ha => ?_)
    obtain ⟨handler, payload, refusal⟩ := a
    have hhandler : handler = r := of_decide_eq_true (List.mem_filter.mp ha).2
    have hrefusal : refusal = none := Option.isNone_iff_eq_none.mp (haccepted _ ha)
    rw [hhandler, hrefusal]
    rfl
  -- an attempt that was accepted is known by its payload
  have hpayloads := congrArg (List.map fun payload => (⟨r, payload, none⟩ : Attempt)) htold
  rw [List.map_map, List.map_map] at hpayloads
  exact hself.trans hpayloads

/-- **The chain of changes.** In every run a value is the last one written, or the seed; a write
that changes it tells every watcher of its key once and nobody else; and a watcher that nothing
failed to reach has got the changes of its time, each beginning where the one before ended. -/
theorem config_change_chain (seeds : List (String × Json)) (fleet : Fleet σ) (ops : List (Op σ)) :
    let s := (seeded seeds fleet).after ops
    (∀ key, s.store.get? key = (lastValue key (ops.filterMap Op.write?)).or (lastValue key seeds)) ∧
      (∀ key value, s.Writes key value) ∧
      ∀ plugin key callback handle more,
        (s.step (.watch plugin key callback handle)).Follows key (s.registration plugin callback handle) more := by
  intro s
  have h : s.Sound := (sound_seeded seeds fleet).after ops
  refine ⟨get?_after_seeded seeds fleet ops, h.writes, ?_⟩
  intro plugin key callback handle more
  refine (h.step _).follows ?_ ?_ more
  · rw [watchers_watch, if_pos rfl]
    exact List.mem_append_right _ (List.mem_singleton_self _)
  · refine List.filter_eq_nil_iff.mpr fun a ha heq => ?_
    have hid := h.told a ha
    rw [of_decide_eq_true heq] at hid
    exact absurd hid (Nat.lt_irrefl _)

theorem config_change_chain_tab_size :
    let fleet : Fleet Unit := ⟨[⟨⟨{}, .start .unlimited 0⟩, (), .start "w" 8, []⟩]⟩
    let s := (seeded [("tab size", .int 4)] fleet).after [.set "theme" .null, .set "tab size" (.int 4)]
    let r := s.registration "w" "on_change" 0
    let more := [.set "tab size" (.int 2), .set "theme" (.bool true), .set "tab size" (.int 2),
      .set "tab size" .null, .unwatch r.id, .set "tab size" (.int 8)]
    s.store.get? "tab size" = some (.int 4) ∧
      s.store.set "tab size" (.int 4) s.fleet = ({}, s.store, s.fleet) ∧
      ((s.step (.watch "w" "tab size" "on_change" 0)).after more).toldTo r =
        [⟨r, change "tab size" (some (.int 4)) (.int 2), none⟩,
          ⟨r, change "tab size" (some (.int 2)) .null, none⟩] := by
  intro fleet s r more
  obtain ⟨hvalues, hwrites, hfollows⟩ := config_change_chain [("tab size", .int 4)] fleet
    [.set "theme" .null, .set "tab size" (.int 4)]
  have hvalue : s.store.get? "tab size" = some (.int 4) := (hvalues "tab size").trans (by decide +kernel)
  refine ⟨hvalue, (hwrites "tab size" (.int 4)).quiet hvalue, ?_⟩
  exact ((hfollows "w" "tab size" "on_change" 0 more).received (by decide +kernel)).trans (by decide +kernel)

end Session

end PluginSandbox.ConfigStore
