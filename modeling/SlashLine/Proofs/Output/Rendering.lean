import SlashLine.Proofs.Output.Cue

/-!
# Painting once

A stage counts as painted once all of it was, and then nothing more of it is painted until it is
cleared. A painting that fails has painted some panels and leaves the stage as it was, so the next
one starts from the first panel again. What can become of one painting is said in `Stage.Shows`; how
many completed is an induction over the history.

* `Stage.shows_render`: every painting goes one of the three ways.
* `completions_eq`: a stage is painted if and only if a painting completed since it was cleared.
* `render_completes_at_most_once`: all of this after any history.
-/

namespace SlashLine.Output

namespace Stage

variable {stage : Stage}

/-- What comes of painting panels for a stage: nothing if it is painted already, all of the panels
if no print call fails, and the panels before the first one that fails. -/
inductive Shows (stage : Stage) (panels : List Panel) (console : Console) (canvas : Canvas) :
    Except Fault Unit × Stage × Canvas → Prop
  | skipped (hrendered : stage.rendered = true) :
      Shows stage panels console canvas (.ok (), stage, canvas)
  | completed (hrendered : stage.rendered = false)
      (hquiet : console.Quiet canvas.prints panels.length) :
      Shows stage panels console canvas (.ok (), { stage with rendered := true },
        ⟨canvas.panels ++ panels, canvas.prints + panels.length⟩)
  | failed {k : Nat} {fault : Fault} (hrendered : stage.rendered = false)
      (hk : k < panels.length) (hquiet : console.Quiet canvas.prints k)
      (hfault : console.failure (canvas.prints + k) = some fault) :
      Shows stage panels console canvas (.error fault, stage,
        ⟨canvas.panels ++ panels.take k, canvas.prints + k + 1⟩)

/-- A stage that is painted is not painted again. -/
theorem render_of_rendered (h : stage.rendered = true) (console : Console) (canvas : Canvas) :
    stage.render console canvas = (.ok (), stage, canvas) := if_pos h

/-- Painting shows the panels of the stage, or as many of them as the console lets it. -/
theorem shows_render (stage : Stage) (console : Console) (canvas : Canvas) :
    stage.Shows stage.panels console canvas (stage.render console canvas) := by
  rw [render]
  cases hrendered : stage.rendered with
  | true =>
    rw [if_pos rfl]
    exact .skipped hrendered
  | false =>
    rw [if_neg Bool.false_ne_true]
    rcases console.quiet_or_fails canvas.prints stage.panels.length with
      hquiet | ⟨k, fault, hk, hquiet, hfault⟩
    · rw [Canvas.paint_of_quiet hquiet]
      exact .completed hrendered hquiet
    · rw [Canvas.paint_of_failure hk hquiet hfault]
      exact .failed hrendered hk hquiet hfault

/-- The stage is not painted yet, and painting it raises nothing. -/
def completes (stage : Stage) (console : Console) (canvas : Canvas) : Bool :=
  !stage.rendered && (stage.render console canvas).1.isOk

/-- A stage is painted if it was before, or if painting it now comes to an end, and never both. -/
theorem rendered_render (stage : Stage) (console : Console) (canvas : Canvas) :
    (stage.render console canvas).2.1.rendered.toNat =
      stage.rendered.toNat + (stage.completes console canvas).toNat := by
  have hshows := stage.shows_render console canvas
  rw [completes]
  generalize stage.render console canvas = result at hshows ⊢
  cases hshows with
  | skipped hrendered => rw [hrendered]; rfl
  | completed hrendered hquiet => rw [hrendered]; rfl
  | failed hrendered hk hquiet hfault => rw [hrendered]; rfl

end Stage

/-- How many paintings completed since the stage was cleared. -/
def completions (own : Console) : List Cue → Nat
  | [] => 0
  | .primary _ _ :: past => completions own past
  | .feedback _ _ :: past => completions own past
  | .clear :: _ => 0
  | .render target canvas :: past =>
    completions own past + ((stageAfter own past).completes (target.resolve own) canvas).toNat

/-- The last primary output since the stage was cleared. -/
def lastPrimary : List Cue → Option Content
  | [] => none
  | .primary _ content :: _ => some content
  | .feedback _ _ :: past => lastPrimary past
  | .clear :: _ => none
  | .render _ _ :: past => lastPrimary past

/-- Since the last clearing painting has come to an end once if the stage is painted, and else
never. -/
theorem completions_eq (own : Console) (past : List Cue) :
    completions own past = (stageAfter own past).rendered.toNat := by
  induction past with
  | nil => rfl
  | cons cue past ih =>
    cases cue with
    | primary source content => exact ih
    | feedback source feedback =>
      rw [stageAfter, Stage.follow, Stage.rendered_addFeedback]
      exact ih
    | clear => rfl
    | render target canvas =>
      rw [stageAfter, Stage.follow, Stage.rendered_render, completions, ih]

/-- The primary output is the last one that was set since the last clearing. -/
theorem primary_stageAfter (own : Console) (past : List Cue) :
    (stageAfter own past).primary = lastPrimary past := by
  induction past with
  | nil => rfl
  | cons cue past ih =>
    cases cue with
    | primary source content => rfl
    | feedback source feedback =>
      rw [stageAfter, Stage.follow, Stage.primary_addFeedback]
      exact ih
    | clear => rfl
    | render target canvas =>
      rw [stageAfter, Stage.follow, Stage.primary_render]
      exact ih

/-- A stage stays painted until it is cleared. -/
theorem rendered_stageAfter_append {own : Console} {past : List Cue}
    (h : (stageAfter own past).rendered = true) {later : List Cue} (hlater : Cue.clear ∉ later) :
    (stageAfter own (later ++ past)).rendered = true := by
  induction later with
  | nil => exact h
  | cons cue later ih =>
    obtain ⟨hcue, hrest⟩ := not_or.mp (mt List.mem_cons.mpr hlater)
    have hkept := ih hrest
    rw [List.cons_append, stageAfter]
    cases cue with
    | primary source content => exact hkept
    | feedback source feedback =>
      rw [Stage.follow, Stage.rendered_addFeedback]
      exact hkept
    | clear => exact absurd rfl hcue
    | render target canvas =>
      rw [Stage.follow, Stage.render_of_rendered hkept]
      exact hkept

/-- Whatever was done with a stage since it was cleared, at most one painting completed, and the
stage is painted if one did. What is on it is what would be there without any painting. The next
painting, wherever it goes, paints nothing if the stage is painted; if not, it paints the panel of
the last primary output and those of the feedback in its order, unless a print call fails: then
those before are painted, the failure is raised, and the stage stays as it is. Once the stage is
painted, all paintings paint and raise nothing until it is cleared. -/
theorem render_completes_at_most_once (own : Console) (past : List Cue) :
    let stage := stageAfter own past
    completions own past ≤ 1 ∧
    (stage.rendered = true ↔ completions own past = 1) ∧
    stage.unpainted = stageAfter own (registrations past) ∧
    (∀ (target : Target) (canvas : Canvas),
      stage.Shows
        (((lastPrimary past).map Content.panel).toList ++ stage.orderedFeedback.map Feedback.panel)
        (target.resolve own) canvas (stage.render (target.resolve own) canvas)) ∧
    ∀ later : List Cue, stage.rendered = true → Cue.clear ∉ later →
      ∀ (target : Target) (canvas : Canvas),
        (stageAfter own (later ++ past)).render (target.resolve own) canvas =
          (.ok (), stageAfter own (later ++ past), canvas) := by
  have hcompletions := completions_eq own past
  dsimp only
  rw [hcompletions, ← primary_stageAfter own past]
  refine ⟨Bool.toNat_le _, Bool.toNat_eq_one.symm, unpainted_stageAfter own past, ?_, ?_⟩
  · intro target canvas
    exact (stageAfter own past).shows_render (target.resolve own) canvas
  · intro later hrendered hlater target canvas
    exact Stage.render_of_rendered (rendered_stageAfter_append hrendered hlater) _ canvas

/-- A primary output that could not be painted at first, and then was. -/
def paintedAtLast : List Cue :=
  [.render .own {},
    .render (.console (Console.failingFirst {} 1 (.other "OSError" "terminal closed"))) {},
    .primary "export" { kind := .success, title := "Done", message := "exported" }]

/-- A tip that comes after the painting. -/
def lateTip : Cue := .feedback "tips" { kind := .tip, content := "Try /help" }

theorem late_tip_not_painted :
    (stageAfter {} paintedAtLast).rendered = true ∧ Cue.clear ∉ [lateTip] ∧
      (stageAfter {} ([lateTip] ++ paintedAtLast)).feedback.size = 1 ∧
      (stageAfter {} ([lateTip] ++ paintedAtLast)).render {} {} =
        (.ok (), stageAfter {} ([lateTip] ++ paintedAtLast), {}) := by
  have hrendered : (stageAfter {} paintedAtLast).rendered = true := by decide +kernel
  have hlater : Cue.clear ∉ [lateTip] := by
    intro hmem
    cases List.mem_singleton.mp hmem
  obtain ⟨-, -, -, -, hskipped⟩ := render_completes_at_most_once {} paintedAtLast
  exact ⟨hrendered, hlater, by decide +kernel, hskipped [lateTip] hrendered hlater .own {}⟩

end SlashLine.Output
