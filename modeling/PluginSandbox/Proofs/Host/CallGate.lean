import PluginSandbox.Proofs.Host.Bounds
import PluginSandbox.Proofs.Worker.CallStart

/-!
# The gate of calls

The latch of a monitor is read twice: by the host before a call is enqueued,
and on the worker when the call starts. A call that passes both enters the
interpreter with nothing counted against it, whatever was spent before.
-/

namespace PluginSandbox

variable {σ : Type} {interp : Interpreter σ}

namespace Host

variable {h : Host σ} {plugin : String} {i : Incarnation σ}

/-! ## The gate of the host -/

section
variable (hi : h.incarnation plugin = .ok i) {b : Breach} (hb : i.sandbox.monitor.latch = some b)
  (callback : String) (args : Json)
include hi hb

theorem enqueueCall_of_latched :
    h.enqueueCall plugin callback args = (.error (.resourceLimitExceeded plugin b.reason), h) := by
  obtain ⟨l, hl, -⟩ := incarnation_eq_ok hi
  have hreason : i.sandbox.monitor.reason? = some b.reason := by rw [Monitor.reason?, hb]; rfl
  unfold enqueueCall
  rw [hl, hi]
  dsimp only
  rw [hreason]

theorem call_of_latched :
    h.call interp plugin callback args = (some (.error (.resourceLimitExceeded plugin b.reason)), h) := by
  obtain ⟨l, hl, -⟩ := incarnation_eq_ok hi
  unfold call
  rw [hl, enqueueCall_of_latched hi hb callback args]

end

theorem act_of_enqueueCall {callback : String} {args : Json} {t : Ticket} {h' : Host σ}
    (hi : h.incarnation plugin = .ok i) (he : h.enqueueCall plugin callback args = (.ok t, h')) :
    h'.incarnation plugin = .ok (i.act interp (.call callback args)) ∧
      (i.act interp (.call callback args)).Placed (.call t .budget callback args) ∧
      ∀ handle, (h'.fleet.get? handle).map (·.sandbox) = (h.fleet.get? handle).map (·.sandbox) := by
  obtain ⟨l, j, w, hl, hget, -, hw, rfl⟩ := enqueueCall_eq_ok he
  have hsame : Except.ok j = (Except.ok i : Except HostError _) := (incarnation_of_find hl hget).symm.trans hi
  cases hsame
  refine ⟨?_, Incarnation.placed_call hw, fun handle => ?_⟩
  · have hact : i.act interp (.call callback args) = { i with worker := w } := by rw [Incarnation.act, hw]
    refine incarnation_of_find (l := l) hl ?_
    rw [hact]
    exact (h.fleet.get?_modify _ _ _).trans (by rw [hget, Option.map_some, if_pos rfl])
  · rw [show (h.modify l.handle _).fleet.get? handle = _ from h.fleet.get?_modify _ _ _, Option.map_map]
    congr 1
    funext j
    dsimp only [Function.comp]
    split <;> rfl

/-! ## The answer -/

theorem awaitCall_of_refused {handle : Handle} (hget : h.fleet.get? handle = some i) {t : Ticket} {reason : String}
    (hr : i.worker.reply t = .settled (.error (.resourceLimit reason))) :
    h.awaitCall interp plugin handle t = (some (.error (.resourceLimitExceeded plugin reason)), h) := by
  have houtcome : h.outcome? plugin handle t = some (.error (.resourceLimitExceeded plugin reason)) := by
    unfold outcome?
    rw [hget]
    dsimp only [bind, Option.bind]
    rw [hr]
    rfl
  unfold awaitCall
  rw [houtcome]

end Host

namespace Incarnation

/-! ## How calls start and how they are taken -/

structure Starts (interp : Interpreter σ) (plugin : String) (i : Incarnation σ) (scene : Scene) (t : Ticket)
    (callback : String) (args : Json) (i' : Incarnation σ) : Prop where
  skipped : t ∈ i.worker.cancelled → i' = { i with worker := i.worker.finish }
  /-- The call has no other answer from then on. -/
  refused : t ∉ i.worker.cancelled → ∀ b, i.sandbox.monitor.latch = some b →
    i.Refuses t b i' ∧
      ∀ acts (h : Host σ) handle, h.fleet.get? handle = some (i'.after interp acts) →
        h.awaitCall interp plugin handle t = (some (.error (.resourceLimitExceeded plugin b.reason)), h)
  entered : t ∉ i.worker.cancelled → i.sandbox.monitor.latch = none → i.Enters interp scene t callback args i'
  /-- `ops` is what the callback spends up to its end or its wait, and `acts` is what happens while
  it waits. -/
  budget : t ∉ i.worker.cancelled → i.sandbox.monitor.latch = none → ∀ ops,
    (conduct interp i scene t callback args).sandbox.monitor = i.sandbox.afresh.monitor.after ops →
    ∀ acts, i'.RunsThrough interp (.call t .budget callback args) acts →
    (∀ op ∈ ops ++ acts.filterMap Act.op?, op.keepsLimits = true) →
    i.sandbox.monitor.limits.instructions = 0 ∨
      Monitor.cost (ops ++ acts.filterMap Act.op?) ≤ i.sandbox.monitor.limits.instructions.toNat →
    (i'.after interp acts).sandbox.monitor = i.sandbox.afresh.monitor.after (ops ++ acts.filterMap Act.op?) ∧
      ∀ done, done <+: ops ++ acts.filterMap Act.op? →
        (i.sandbox.afresh.monitor.after done).latch ≠ some .instructions

/-- How the incarnation of a plugin takes its calls, on any host that has it. -/
structure Gated (interp : Interpreter σ) (plugin : String) (i : Incarnation σ) : Prop where
  refused : ∀ h : Host σ, h.incarnation plugin = .ok i → ∀ b, i.sandbox.monitor.latch = some b →
    ∀ callback args,
      h.enqueueCall plugin callback args = (.error (.resourceLimitExceeded plugin b.reason), h) ∧
      h.call interp plugin callback args = (some (.error (.resourceLimitExceeded plugin b.reason)), h)
  /-- To enqueue a call changes no sandbox. The call waits until the move by which it is discarded
  or with which it starts. -/
  enqueued : ∀ h : Host σ, h.incarnation plugin = .ok i → ∀ callback args t h',
    h.enqueueCall plugin callback args = (.ok t, h') →
    h'.incarnation plugin = .ok (i.act interp (.call callback args)) ∧
      (∀ handle, (h'.fleet.get? handle).map (·.sandbox) = (h.fleet.get? handle).map (·.sandbox)) ∧
      ∀ acts, ((i.act interp (.call callback args)).after interp acts).Placed (.call t .budget callback args) ∨
        ∃ before scene later, acts = before ++ .move scene :: later ∧
          let j := (i.act interp (.call callback args)).after interp before
          .call t .budget callback args ∈ j.worker.throws ∨ j.worker.stage = .chosen (.call t .budget callback args)
  starts : ∀ t callback args, i.worker.stage = .chosen (.call t .budget callback args) →
    ∀ scene, i.Starts interp plugin scene t callback args (i.act interp (.move scene))

section
variable {i : Incarnation σ} (hdistinct : i.worker.Distinct)
include hdistinct

theorem starts_move (hmirrored : i.sandbox.monitor.Mirrored) (plugin : String) {t : Ticket} {callback : String}
    {args : Json} (hstage : i.worker.stage = .chosen (.call t .budget callback args)) (scene : Scene) :
    i.Starts interp plugin scene t callback args (i.act interp (.move scene)) := by
  have hdistinct' : (i.act interp (.move scene)).worker.Distinct := distinct_act hdistinct (.move scene)
  rw [act_move_of_chosen hstage] at hdistinct' ⊢
  refine ⟨begin_of_cancelled scene callback args, ?_, enters_begin scene callback args, ?_⟩
  · intro hc b hb
    have hrefuses : i.Refuses t b (i.begin interp scene (.call t .budget callback args)) :=
      refuses_begin scene callback args hc hb
    exact ⟨hrefuses, fun acts h handle hget =>
      Host.awaitCall_of_refused hget (reply_after hdistinct' hrefuses.result acts)⟩
  · intro hc hb ops hops acts hruns hkeeps hroom
    exact (enters_begin scene callback args hc hb).unbroken hmirrored hb hops hruns hkeeps hroom

theorem gated (hmirrored : i.sandbox.monitor.Mirrored) (plugin : String) : i.Gated interp plugin where
  refused _ hi _ hb callback args :=
    ⟨Host.enqueueCall_of_latched hi hb callback args, Host.call_of_latched hi hb callback args⟩
  enqueued _ hi _ _ _ _ he := by
    obtain ⟨hact, hplaced, hsandboxes⟩ := Host.act_of_enqueueCall hi he
    exact ⟨hact, hsandboxes, placed_after hplaced⟩
  starts _ _ _ hstage := starts_move hdistinct hmirrored plugin hstage

end

end Incarnation

/-! ## Scripts -/

namespace Script

theorem monitor_account (r : Bool × Monitor) (counter : Monitor → Nat) (box : Sandbox) (s : Script) :
    (account r counter box s).sandbox.monitor = r.2 := by
  unfold account
  dsimp only
  split <;> rfl

theorem interpreter_accountable : interpreter.Accountable := by
  intro scene interrupted callback args box s
  show ∃ ops, (invoke scene interrupted callback args box s).sandbox.monitor = box.monitor.after ops
  unfold invoke
  dsimp only
  split
  case h_4 => exact ⟨[.addInstructions (amount args)], monitor_account _ _ box s⟩
  case h_5 => exact ⟨[.setMemory (amount args)], monitor_account _ _ box s⟩
  case h_6 => exact ⟨[.addOutput (amount args)], monitor_account _ _ box s⟩
  case h_7 => exact ⟨[.startTask], monitor_account _ _ box s⟩
  case h_8 => exact ⟨[.endTask], monitor_account _ _ box s⟩
  case h_9 => exact ⟨[.tryFileOp scene.now], rfl⟩
  case h_10 => exact ⟨[.tryNetworkRequest scene.now], rfl⟩
  all_goals first | exact ⟨[], rfl⟩ | exact ⟨[], congrArg Sandbox.monitor (sandbox_ask _ _ box s)⟩

end Script

namespace Host

theorem incarnation_of_load {h h' : Host σ} {plugin : String} {requested : PermissionSet} {factory : Factory σ}
    (hl : h.load plugin requested factory = (.ok (), h')) :
    ∃ i, h'.incarnation plugin = .ok i ∧ i.worker.Distinct ∧ i.sandbox.monitor.Mirrored := by
  obtain ⟨s, hi⟩ := incarnation_load hl
  exact ⟨_, hi, Worker.distinct_start _ _, rfl⟩

/-- **The gate of calls and the budget of a call.** Whatever becomes of the incarnation of a plugin
that was loaded, by what its host does and by what its interpreter spends, a call is refused once
the monitor has latched, before it is enqueued and again as it starts; any other call that starts
enters the interpreter with its instructions uncounted, and does not break their limit unless it
spends more than that itself. -/
theorem gated_of_load (haccountable : interp.Accountable) {h h' : Host σ} {plugin : String}
    {requested : PermissionSet} {factory : Factory σ} (hl : h.load plugin requested factory = (.ok (), h')) :
    ∃ i, h'.incarnation plugin = .ok i ∧
      (∀ ops : List (Op σ), (∀ op ∈ ops, op.isQuiet = true) →
        ∃ acts, (run interp h' ops).host.incarnation plugin = .ok (i.after interp acts)) ∧
      ∀ acts, (i.after interp acts).Gated interp plugin := by
  obtain ⟨i, hi, hdistinct, hmirrored⟩ := incarnation_of_load hl
  refine ⟨i, hi, fun ops hops => (h'.acted_run interp ops hops).incarnation_eq_ok hi, fun acts => ?_⟩
  exact Incarnation.gated (Incarnation.distinct_after hdistinct acts)
    (Incarnation.mirrored_after haccountable hmirrored acts) plugin

/-- A call spends what it may while another is queued; where it spends more, the other is refused as
it starts. On a host a call that spent too much has closed the gate. -/
theorem gated_of_load_spin :
    let h : Host Script := start { overrides := { instructions := some 10 } } .standard {} 2000 {}
    Script.interpreter.Accountable ∧ ∃ h' i, h.load "p" {} (Script.Recipe.factory {}) = (.ok (), h') ∧
      h'.incarnation "p" = .ok i ∧
      let busy := i.after Script.interpreter [.call "busy" .null, .move {}, .move {}]
      let begun := busy.act Script.interpreter (.move {})
      let next := i.after Script.interpreter
        [.call "busy" .null, .move {}, .move {}, .move {}, .call "spin" (.nat 4), .spend (.addInstructions 11),
          .finish (.ok .null) i.state, .move {}, .move {}]
      let spun := (run Script.interpreter h'
        [.startCall "p" "spin" (.nat 11), .moveWorker 0, .moveWorker 0, .moveWorker 0]).host
      busy.Enters Script.interpreter {} 0 "busy" .null begun ∧
        (begun.after Script.interpreter
          [.call "spin" (.nat 4), .spend (.addInstructions 10)]).sandbox.monitor.latch ≠ some .instructions ∧
        next.Refuses 1 .instructions (next.act Script.interpreter (.move {})) ∧
        spun.call Script.interpreter "p" "spin" (.nat 1) =
          (some (.error (.resourceLimitExceeded "p" "instruction limit exceeded")), spun) := by
  intro h
  have hload : h.load "p" {} (Script.Recipe.factory {}) = (.ok (), _) := rfl
  obtain ⟨i, hi, hruns, hgated⟩ := gated_of_load Script.interpreter_accountable hload
  refine ⟨Script.interpreter_accountable, _, i, hload, hi, ?_⟩
  obtain ⟨acts, hacts⟩ := hruns
    [.startCall "p" "spin" (.nat 11), .moveWorker 0, .moveWorker 0, .moveWorker 0] (by decide)
  have hspun := (hgated acts).refused _ hacts .instructions
  intro busy begun next spun
  have hbusy : busy.Gated Script.interpreter "p" := hgated _
  have hnext : next.Gated Script.interpreter "p" := hgated _
  cases hi.symm.trans rfl
  have hbegun := hbusy.starts 0 "busy" .null rfl {}
  refine ⟨hbegun.entered (by decide) rfl, ?_, ?_, ?_⟩
  · have hwaits : begun.RunsThrough Script.interpreter (.call 0 .budget "busy" .null)
        [.call "spin" (.nat 4), .spend (.addInstructions 10)] := by
      intro n hn
      match n, hn with
      | 0, _ => rfl
      | 1, _ => rfl
    obtain ⟨hmonitor, hunbroken⟩ :=
      hbegun.budget (by decide) rfl [] rfl _ hwaits (by decide) (.inr (by decide +kernel))
    rw [hmonitor]
    exact hunbroken _ List.prefix_rfl
  · have hstage : next.worker.stage = .chosen (.call 1 .budget "spin" (.nat 4)) := by
      -- Written out, the incarnation is a closed term and evaluates.
      dsimp only [next, h]
      rfl
    exact ((hnext.starts 1 "spin" (.nat 4) hstage {}).refused (by decide +kernel) .instructions (by decide +kernel)).1
  · have hlatch : (spun.incarnation "p").map (·.sandbox.monitor.latch) = .ok (some .instructions) := by
      decide +kernel
    rw [hacts] at hlatch
    exact (hspun (Except.ok.inj hlatch) "spin" (.nat 1)).2

end Host

end PluginSandbox
