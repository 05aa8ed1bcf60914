import SlashLine.Fault
import SlashLine.Output.Panel

/-!
# Consoles

Where panels are painted. A print call may fail; then nothing of that panel is painted.

* `Canvas.paint_of_quiet`: as long as no print call fails, exactly the given panels are painted.
* `Canvas.paint_of_failure`: the panels before the first print call that fails are painted.
-/

namespace SlashLine.Output

/-- A console: whether it leaves out colours, and which of its print calls fail, counted from 0. -/
structure Console where
  plain : Bool := false
  failure : Nat → Option Fault := fun _ => none

namespace Console

instance : Inhabited Console := ⟨{}⟩

/-- The console, with its first print calls failing. -/
def failingFirst (console : Console) (count : Nat) (fault : Fault) : Console :=
  { console with failure := fun n => if n < count then some fault else none }

end Console

/-- What output may be directed to: the own console, another one, or a stream, which is treated as
a console with the own one's colours. -/
inductive Target where
  | own
  | console (other : Console)
  | stream (failure : Nat → Option Fault)

/-- The console a target stands for. -/
def Target.resolve (target : Target) (own : Console) : Console :=
  match target with
  | .own => own
  | .console other => other
  | .stream failure => { plain := own.plain, failure }

/-- What has been painted, in order, and how many print calls there were. -/
structure Canvas where
  panels : List Panel := []
  prints : Nat := 0
  deriving DecidableEq

instance : Inhabited Canvas := ⟨{}⟩

/-- Prints one panel. -/
def Canvas.print (console : Console) (canvas : Canvas) (panel : Panel) :
    Except Fault Unit × Canvas :=
  match console.failure canvas.prints with
  | some fault => (.error fault, { canvas with prints := canvas.prints + 1 })
  | none => (.ok (), ⟨canvas.panels ++ [panel], canvas.prints + 1⟩)

/-- Prints panels one after the other, up to the first that fails. -/
def Canvas.paint (console : Console) : Canvas → List Panel → Except Fault Unit × Canvas
  | canvas, [] => (.ok (), canvas)
  | canvas, panel :: rest =>
    match canvas.print console panel with
    | (.error fault, canvas) => (.error fault, canvas)
    | (.ok (), canvas) => Canvas.paint console canvas rest

/-! ## Consoles that fail late, or not at all -/

/-- So many print calls succeed, from one on. -/
def Console.Quiet (console : Console) (start count : Nat) : Prop :=
  ∀ i < count, console.failure (start + i) = none

theorem Console.quiet_or_fails (console : Console) (start count : Nat) :
    console.Quiet start count ∨
      ∃ k fault, k < count ∧ console.Quiet start k ∧ console.failure (start + k) = some fault := by
  induction count with
  | zero => exact Or.inl fun i hi => absurd hi (Nat.not_lt_zero i)
  | succ count ih =>
    rcases ih with hquiet | ⟨k, fault, hk, hquiet, hfault⟩
    · cases hnext : console.failure (start + count) with
      | some fault => exact Or.inr ⟨count, fault, Nat.lt_succ_self count, hquiet, hnext⟩
      | none =>
        left
        intro i hi
        rcases Nat.lt_succ_iff_lt_or_eq.mp hi with hlt | rfl
        · exact hquiet i hlt
        · exact hnext
    · exact Or.inr ⟨k, fault, Nat.lt_succ_of_lt hk, hquiet, hfault⟩

theorem Console.Quiet.tail {console : Console} {start count : Nat}
    (h : console.Quiet start (count + 1)) : console.Quiet (start + 1) count := by
  intro i hi
  have hnext := h (i + 1) (Nat.succ_lt_succ hi)
  rwa [Nat.add_comm i 1, ← Nat.add_assoc] at hnext

theorem Canvas.print_of_quiet {console : Console} {canvas : Canvas} {count : Nat}
    (h : console.Quiet canvas.prints (count + 1)) (panel : Panel) :
    canvas.print console panel = (.ok (), ⟨canvas.panels ++ [panel], canvas.prints + 1⟩) := by
  have hfirst : console.failure canvas.prints = none := h 0 (Nat.succ_pos count)
  rw [Canvas.print, hfirst]

theorem Canvas.paint_of_quiet {console : Console} {canvas : Canvas} {panels : List Panel}
    (h : console.Quiet canvas.prints panels.length) :
    canvas.paint console panels =
      (.ok (), ⟨canvas.panels ++ panels, canvas.prints + panels.length⟩) := by
  induction panels generalizing canvas with
  | nil => rw [Canvas.paint, List.append_nil]; rfl
  | cons panel rest ih =>
    have hrest : console.Quiet (canvas.prints + 1) rest.length := h.tail
    rw [Canvas.paint, Canvas.print_of_quiet h]
    dsimp only
    rw [ih hrest, List.append_assoc, List.singleton_append, List.length_cons, Nat.add_assoc,
      Nat.add_comm 1]

theorem Canvas.paint_of_failure {console : Console} {canvas : Canvas} {panels : List Panel}
    {k : Nat} {fault : Fault} (hk : k < panels.length) (hquiet : console.Quiet canvas.prints k)
    (hfault : console.failure (canvas.prints + k) = some fault) :
    canvas.paint console panels =
      (.error fault, ⟨canvas.panels ++ panels.take k, canvas.prints + k + 1⟩) := by
  induction panels generalizing canvas k with
  | nil => exact absurd hk (Nat.not_lt_zero k)
  | cons panel rest ih =>
    cases k with
    | zero =>
      have hfirst : console.failure canvas.prints = some fault := hfault
      rw [Canvas.paint, Canvas.print, hfirst, List.take_zero, List.append_nil]
    | succ k =>
      have hnext : canvas.prints + (k + 1) = canvas.prints + 1 + k := by omega
      rw [hnext] at hfault ⊢
      rw [Canvas.paint, Canvas.print_of_quiet hquiet]
      dsimp only
      rw [ih (Nat.lt_of_succ_lt_succ hk) hquiet.tail hfault, List.append_assoc,
        List.singleton_append, List.take_succ_cons]

theorem Canvas.failure_of_paint {console : Console} {canvas painted : Canvas}
    {panels : List Panel} {fault : Fault}
    (h : canvas.paint console panels = (.error fault, painted)) :
    ∃ n, console.failure n = some fault := by
  rcases console.quiet_or_fails canvas.prints panels.length with
    hquiet | ⟨k, fault', hk, hquiet, hfault⟩
  · rw [Canvas.paint_of_quiet hquiet] at h
    cases h
  · rw [Canvas.paint_of_failure hk hquiet hfault] at h
    cases h
    exact ⟨_, hfault⟩

theorem Canvas.paint_of_no_failure {console : Console} (h : ∀ n, console.failure n = none)
    (canvas : Canvas) (panels : List Panel) :
    canvas.paint console panels =
      (.ok (), ⟨canvas.panels ++ panels, canvas.prints + panels.length⟩) :=
  Canvas.paint_of_quiet fun i _ => h (canvas.prints + i)

end SlashLine.Output
