import ArtForgeStudio.LocalStore.Data
import Mathlib.Data.List.DropRight

/-! # The history of the canvas

The controller of the canvas keeps the states before the last edits, and those that were undone.
Over it stands the unbounded timeline of all edits, of which the controller has kept the end.
-/

namespace ArtForgeStudio.Canvas

open ArtForgeStudio.LocalStore

structure CanvasSnapshot where
  notes : List CanvasNoteData := []
  links : List CanvasLinkData := []
  deriving DecidableEq

structure CanvasClipboard where
  notes : List CanvasNoteData := []
  links : List CanvasLinkData := []

def maxCanvasHistory : Nat := 100

/-- The last entry of each stack is its top. -/
structure CanvasController where
  undoStack : List CanvasSnapshot := []
  redoStack : List CanvasSnapshot := []
  clipboard : CanvasClipboard := {}

namespace CanvasController

variable (controller : CanvasController)

def record (snapshot : CanvasSnapshot) : CanvasController :=
  let undo := controller.undoStack ++ [snapshot]
  { controller with
    undoStack := if undo.length > maxCanvasHistory then undo.drop 1 else undo
    redoStack := [] }

def undo (current : CanvasSnapshot) : Option (CanvasSnapshot × CanvasController) :=
  controller.undoStack.getLast?.map fun previous =>
    (previous, { controller with
      undoStack := controller.undoStack.dropLast
      redoStack := controller.redoStack ++ [current] })

def redo (current : CanvasSnapshot) : Option (CanvasSnapshot × CanvasController) :=
  controller.redoStack.getLast?.map fun next =>
    (next, { controller with
      undoStack := controller.undoStack ++ [current]
      redoStack := controller.redoStack.dropLast })

end CanvasController

structure Session where
  current : CanvasSnapshot
  controller : CanvasController := {}

namespace Session

variable (session : Session)

/-- `record(current)`, and another canvas takes its place. -/
def edit (next : CanvasSnapshot) : Session :=
  ⟨next, session.controller.record session.current⟩

/-- The snapshot that is returned is installed. -/
def undo : Option Session :=
  (session.controller.undo session.current).map fun (previous, controller) =>
    ⟨previous, controller⟩

def redo : Option Session :=
  (session.controller.redo session.current).map fun (next, controller) => ⟨next, controller⟩

def undoTimes : Nat → Session → Option Session
  | 0, session => some session
  | k + 1, session => session.undo.bind (undoTimes k)

def redoTimes : Nat → Session → Option Session
  | 0, session => some session
  | k + 1, session => session.redo.bind (redoTimes k)

end Session

/-- All states before and after the present one; the nearest come last. -/
structure Timeline where
  past : List CanvasSnapshot := []
  present : CanvasSnapshot
  future : List CanvasSnapshot := []

namespace Timeline

variable (timeline : Timeline)

def edit (next : CanvasSnapshot) : Timeline := ⟨timeline.past ++ [timeline.present], next, []⟩

def undo : Timeline :=
  match timeline.past.getLast? with
  | some previous => ⟨timeline.past.dropLast, previous, timeline.future ++ [timeline.present]⟩
  | none => timeline

def redo : Timeline :=
  match timeline.future.getLast? with
  | some next => ⟨timeline.past ++ [timeline.present], next, timeline.future.dropLast⟩
  | none => timeline

/-- The state some edits back. -/
def back (edits : Nat) : Option CanvasSnapshot := (timeline.present :: timeline.past.reverse)[edits]?

end Timeline

/-- The runs from an empty controller, with the timeline of their edits. An undo or a redo that
finds nothing changes nothing. -/
inductive Run : Session → Timeline → Prop
  | start (snapshot : CanvasSnapshot) : Run { current := snapshot } { present := snapshot }
  | edit {session timeline} (h : Run session timeline) (next : CanvasSnapshot) :
      Run (session.edit next) (timeline.edit next)
  | undo {session timeline before} (h : Run session timeline) (hundo : session.undo = some before) :
      Run before timeline.undo
  | redo {session timeline after} (h : Run session timeline) (hredo : session.redo = some after) :
      Run after timeline.redo

/-- The controller has kept the end of the past and all of the future, a hundred states at most. -/
structure Tracks (session : Session) (timeline : Timeline) : Prop where
  present : session.current = timeline.present
  past : session.controller.undoStack <:+ timeline.past
  future : session.controller.redoStack = timeline.future
  bound : session.controller.undoStack.length + session.controller.redoStack.length ≤
    maxCanvasHistory

section Steps

variable {session before after : Session} {timeline : Timeline} {next : CanvasSnapshot}

/-- What an undo does: the last state before the present one is moved. -/
theorem undo_eq_some : session.undo = some before ↔
    session.controller.undoStack = before.controller.undoStack ++ [before.current] ∧
      before.controller.redoStack = session.controller.redoStack ++ [session.current] ∧
      before.controller.clipboard = session.controller.clipboard := by
  obtain ⟨current, undos, redos, clipboard⟩ := session
  obtain ⟨previous, undos', redos', clipboard'⟩ := before
  rcases List.eq_nil_or_concat' undos with rfl | ⟨init, last, rfl⟩
  · simp [Session.undo, CanvasController.undo]
  · simp [Session.undo, CanvasController.undo]
    grind

theorem redo_eq_some : session.redo = some after ↔
    session.controller.redoStack = after.controller.redoStack ++ [after.current] ∧
      after.controller.undoStack = session.controller.undoStack ++ [session.current] ∧
      after.controller.clipboard = session.controller.clipboard := by
  obtain ⟨current, undos, redos, clipboard⟩ := session
  obtain ⟨next, undos', redos', clipboard'⟩ := after
  rcases List.eq_nil_or_concat' redos with rfl | ⟨init, last, rfl⟩
  · simp [Session.redo, CanvasController.redo]
  · simp [Session.redo, CanvasController.redo]
    grind

/-- A redo takes back an undo, and an undo a redo. -/
theorem undo_iff_redo : session.undo = some before ↔ before.redo = some session := by
  rw [undo_eq_some, redo_eq_some]
  grind

theorem Tracks.edit (h : Tracks session timeline) (next : CanvasSnapshot) :
    Tracks (session.edit next) (timeline.edit next) := by
  have hbound := h.bound
  have hsuffix : session.controller.undoStack ++ [session.current] <:+
      timeline.past ++ [timeline.present] := by
    obtain ⟨lost, hlost⟩ := h.past
    exact ⟨lost, by rw [← List.append_assoc, hlost, h.present]⟩
  refine ⟨rfl, ?_, rfl, ?_⟩
  · simp only [Session.edit, CanvasController.record]
    split
    · exact (List.drop_suffix 1 _).trans hsuffix
    · exact hsuffix
  · simp only [Session.edit, CanvasController.record]
    split <;> simp_all [maxCanvasHistory]
    omega

theorem Tracks.undo (h : Tracks session timeline) (hundo : session.undo = some before) :
    Tracks before timeline.undo := by
  obtain ⟨hundos, hredos, -⟩ := undo_eq_some.mp hundo
  obtain ⟨past, present, future⟩ := timeline
  obtain ⟨lost, hlost⟩ := h.past
  have hpast : past = (lost ++ before.controller.undoStack) ++ [before.current] := by
    rw [List.append_assoc, ← hundos]
    exact hlost.symm
  have hbound := h.bound
  have hpresent : session.current = present := h.present
  have hfuture : session.controller.redoStack = future := h.future
  refine ⟨?_, ?_, ?_, ?_⟩
  · simp [Timeline.undo, hpast]
  · simp [Timeline.undo, hpast]
  · simpa [Timeline.undo, hpast, hpresent, hfuture] using hredos
  · simp_all
    omega

theorem Tracks.redo (h : Tracks session timeline) (hredo : session.redo = some after) :
    Tracks after timeline.redo := by
  obtain ⟨hredos, hundos, -⟩ := redo_eq_some.mp hredo
  obtain ⟨past, present, future⟩ := timeline
  have hfuture : future = after.controller.redoStack ++ [after.current] := by
    rw [← hredos]
    exact h.future.symm
  obtain ⟨lost, hlost⟩ := h.past
  have hpast : lost ++ session.controller.undoStack = past := hlost
  have hpresent : session.current = present := h.present
  have hbound := h.bound
  refine ⟨?_, ⟨lost, ?_⟩, ?_, ?_⟩
  · simp [Timeline.redo, hfuture]
  · simp [Timeline.redo, hfuture, hundos, hpresent, ← hpast]
  · simp [Timeline.redo, hfuture]
  · simp_all
    omega

theorem Run.tracks (h : Run session timeline) : Tracks session timeline := by
  induction h with
  | start snapshot => exact ⟨rfl, List.suffix_refl _, rfl, Nat.zero_le _⟩
  | edit h next ih => exact ih.edit next
  | undo h hundo ih => exact ih.undo hundo
  | redo h hredo ih => exact ih.redo hredo

theorem redoTimes_concat (k : Nat) (session : Session) :
    session.redoTimes (k + 1) = (session.redoTimes k).bind Session.redo := by
  induction k generalizing session with
  | zero => simp [Session.redoTimes]
  | succ k ih =>
    rw [Session.redoTimes, Session.redoTimes, Option.bind_assoc]
    exact congrArg _ (funext ih)

/-- As many redos take back some undos, and as many undos some redos. -/
theorem undoTimes_iff_redoTimes {k : Nat} :
    session.undoTimes k = some before ↔ before.redoTimes k = some session := by
  induction k generalizing session with
  | zero => simp [Session.undoTimes, Session.redoTimes, eq_comm]
  | succ k ih =>
    rw [Session.undoTimes, redoTimes_concat, Option.bind_eq_some_iff, Option.bind_eq_some_iff]
    refine exists_congr fun middle => ?_
    rw [ih, undo_iff_redo, and_comm]

/-- The states that are kept are those of the timeline. -/
theorem Run.back (h : Run session timeline) {k : Nat}
    (hk : k ≤ session.controller.undoStack.length) :
    ∃ before, session.undoTimes k = some before ∧ timeline.back k = some before.current := by
  induction k generalizing session timeline with
  | zero => exact ⟨session, rfl, congrArg some h.tracks.present.symm⟩
  | succ k ih =>
    obtain ⟨undos, previous, hundos⟩ : ∃ undos previous,
        session.controller.undoStack = undos ++ [previous] := by
      refine (List.eq_nil_or_concat' session.controller.undoStack).resolve_left fun hnil => ?_
      simp [hnil] at hk
    have hundo : session.undo = some ⟨previous, { session.controller with
        undoStack := undos, redoStack := session.controller.redoStack ++ [session.current] }⟩ :=
      undo_eq_some.mpr ⟨hundos, rfl, rfl⟩
    obtain ⟨before, hbefore, hback⟩ := ih (h.undo hundo) (by simp_all)
    refine ⟨before, by rw [Session.undoTimes, hundo]; exact hbefore, ?_⟩
    obtain ⟨lost, hlost⟩ := h.tracks.past
    rw [← hback]
    simp [Timeline.back, Timeline.undo, ← hlost, hundos]

end Steps

/-- The state before an edit is kept, and the oldest one goes when there are more than a hundred. -/
theorem Run.edit_eq {session : Session} {timeline : Timeline} (h : Run session timeline)
    (next : CanvasSnapshot) : session.edit next = ⟨next, { session.controller with
      undoStack := (session.controller.undoStack ++ [session.current]).rtake maxCanvasHistory,
      redoStack := [] }⟩ := by
  have hbound := h.tracks.bound
  have hlength : (session.controller.undoStack ++ [session.current]).length =
      session.controller.undoStack.length + 1 := by simp
  simp only [Session.edit, CanvasController.record, List.rtake]
  split
  · rw [show (session.controller.undoStack ++ [session.current]).length - maxCanvasHistory = 1 by
      omega]
  · rw [show (session.controller.undoStack ++ [session.current]).length - maxCanvasHistory = 0 by
      omega, List.drop_zero]

/-- A hundred states are kept at most; undos lead back along the edits as far as states are kept;
redos and undos take each other back; an edit keeps the last hundred of the states before it; and
it leaves out what could be redone, and nothing else. -/
theorem history_is_linear {session : Session} {timeline : Timeline} (h : Run session timeline) :
    session.controller.undoStack.length + session.controller.redoStack.length ≤ 100 ∧
    (∀ k ≤ session.controller.undoStack.length, ∃ before,
      session.undoTimes k = some before ∧ timeline.back k = some before.current) ∧
    (∀ k before, session.undoTimes k = some before → before.redoTimes k = some session) ∧
    (∀ k after, session.redoTimes k = some after → after.undoTimes k = some session) ∧
    (∀ next, session.edit next = ⟨next, { session.controller with
      undoStack := (session.controller.undoStack ++ [session.current]).rtake 100,
      redoStack := [] }⟩) ∧
    (session.controller.redoStack ≠ [] → ∀ next, session.edit next =
      ⟨next, { session.controller with
        undoStack := session.controller.undoStack ++ [session.current], redoStack := [] }⟩) := by
  have hbound : session.controller.undoStack.length + session.controller.redoStack.length ≤ 100 :=
    h.tracks.bound
  refine ⟨hbound, fun k hk => h.back hk, fun _ _ => undoTimes_iff_redoTimes.mp,
    fun _ _ => undoTimes_iff_redoTimes.mpr, h.edit_eq, fun hredo next => ?_⟩
  have hpos : 0 < session.controller.redoStack.length := List.length_pos_iff.mpr hredo
  have hnone : (session.controller.undoStack ++ [session.current]).length - maxCanvasHistory = 0 := by
    rw [List.length_append, List.length_singleton, maxCanvasHistory]
    omega
  rw [h.edit_eq next, List.rtake, hnone, List.drop_zero]

/-- Two edits and an undo; the edit that follows leaves the second one out. -/
theorem history_is_linear_edits :
    let note (id : String) : CanvasSnapshot := { notes := [{ id := id, content := "", x := 0, y := 0 }] }
    let session : Session := ⟨note "a", { undoStack := [{}], redoStack := [note "b"] }⟩
    session.edit (note "c") = ⟨note "c", { undoStack := [{}, note "a"], redoStack := [] }⟩ := by
  intro note session
  have hrun : Run session ⟨[{}], note "a", [note "b"]⟩ :=
    .undo (.edit (.edit (.start {}) (note "a")) (note "b")) rfl
  exact (history_is_linear hrun).2.2.2.2.2 (List.cons_ne_nil _ _) (note "c")

end ArtForgeStudio.Canvas
