import Mathlib.Data.List.Induction
import NodePolicy.Proofs.Outcome

/-!
Bounded texts and lists over whole runs. A run takes steps one after the other, and a step that is
refused leaves what was there before it. So what a run holds is decided by its accepted steps alone,
and whether a step is accepted is decided by the sizes of what is held and of what comes.
-/

namespace NodePolicy

section Run
variable {σ τ ε Act : Type} (attempt : σ → Act → Except ε σ)

/-- What there is after a step: its result or, when it is refused, what was there before. -/
def settle (before : σ) (next : Act) : σ :=
  match attempt before next with
  | .ok after => after
  | .error _ => before

def runFrom (start : σ) (steps : List Act) : σ := steps.foldl (settle attempt) start

def acceptedFrom (start : σ) : List Act → List Act
  | [] => []
  | next :: rest =>
    match attempt start next with
    | .ok after => next :: acceptedFrom after rest
    | .error _ => acceptedFrom start rest

theorem runFrom_snoc (start : σ) (steps : List Act) (next : Act) :
    runFrom attempt start (steps ++ [next]) =
      settle attempt (runFrom attempt start steps) next := by
  rw [runFrom, List.foldl_append]
  rfl

variable {attempt}

theorem settle_ok {before after : σ} {next : Act} (accepted : attempt before next = .ok after) :
    settle attempt before next = after := by
  rw [settle, accepted]

theorem settle_error {before : σ} {next : Act} {cause : ε}
    (refused : attempt before next = .error cause) : settle attempt before next = before := by
  rw [settle, refused]

/-- What the next step of a run does: it is accepted exactly when it fits and has its effect then,
and else it is refused, with nothing changed, for a limit that it exceeds. -/
structure Settles (attempt : σ → Act → Except CapacityError σ) (before : σ) (next : Act)
    (after : σ) (fits : Prop) (effect : σ → Prop) (refusal : CapacityError) : Prop where
  accepted_iff : (∃ result, attempt before next = .ok result) ↔ fits
  accepted : ∀ result, attempt before next = .ok result → after = result ∧ effect after
  refused : ∀ cause, attempt before next = .error cause →
    after = before ∧ cause = refusal ∧ cause.capacity < cause.length

theorem settles_of_cases (attempt : σ → Act → Except CapacityError σ) (before : σ) (next : Act)
    (fits : Prop) (effect : σ → Prop) (refusal : CapacityError)
    (cases : (fits ∧ ∃ result, attempt before next = .ok result ∧ effect result) ∨
      (¬ fits ∧ attempt before next = .error refusal ∧ refusal.capacity < refusal.length)) :
    Settles attempt before next (settle attempt before next) fits effect refusal := by
  rcases cases with ⟨fits, result, done, acts⟩ | ⟨unfit, refused, exceeds⟩
  · rw [settle_ok done]
    refine ⟨iff_of_true ⟨result, done⟩ fits, ?_, ?_⟩
    · intro other same
      cases done.symm.trans same
      exact ⟨rfl, acts⟩
    · intro cause refused
      cases done.symm.trans refused
  · rw [settle_error refused]
    refine ⟨iff_of_false ?_ unfit, ?_, ?_⟩
    · rintro ⟨result, done⟩
      cases refused.symm.trans done
    · intro result done
      cases refused.symm.trans done
    · intro cause same
      cases refused.symm.trans same
      exact ⟨rfl, rfl, exceeds⟩

/-- What every accepted step does to a view is what the run does to it. -/
theorem view_runFrom (view : σ → τ) (effect : τ → Act → τ)
    (acts : ∀ before next after, attempt before next = .ok after →
      view after = effect (view before) next)
    (start : σ) (steps : List Act) :
    view (runFrom attempt start steps) =
      (acceptedFrom attempt start steps).foldl effect (view start) := by
  induction steps generalizing start with
  | nil => rfl
  | cons next rest ih =>
      rw [runFrom, List.foldl_cons, acceptedFrom]
      cases tried : attempt start next with
      | ok after =>
          rw [settle_ok tried, List.foldl_cons, ← acts start next after tried]
          exact ih after
      | error cause =>
          rw [settle_error tried]
          exact ih start

end Run

inductive ListStep (bytes : Nat) where
  | pushText (text : String)
  | push (item : BoundedText bytes)
  | replace (items : List (BoundedText bytes))

namespace ListStep

variable {bytes capacity : Nat}

def attempt (list : BoundedList (BoundedText bytes) capacity) :
    ListStep bytes → Except CapacityError (BoundedList (BoundedText bytes) capacity)
  | pushText text => list.pushText text
  | push item => list.push item
  | replace items => BoundedList.ofList items

def effect (held : List String) : ListStep bytes → List String
  | pushText text => held ++ [text]
  | push item => held ++ [item.text]
  | replace items => items.map BoundedText.text

def Fits (capacity held : Nat) : ListStep bytes → Prop
  | pushText text => held < capacity ∧ text.utf8ByteSize ≤ bytes
  | push _ => held < capacity
  | replace items => items.length ≤ capacity

/-- Why a step is refused. A full list refuses a text for its own sake, however long the text is. -/
def refusal (capacity held : Nat) : ListStep bytes → CapacityError
  | pushText text =>
    if held < capacity then ⟨.textBytes, text.utf8ByteSize, bytes⟩
    else ⟨.elementCount, held + 1, capacity⟩
  | push _ => ⟨.elementCount, held + 1, capacity⟩
  | replace items => ⟨.elementCount, items.length, capacity⟩

def isReplacement : ListStep bytes → Bool
  | replace _ => true
  | _ => false

def run (capacity : Nat) (steps : List (ListStep bytes)) :
    BoundedList (BoundedText bytes) capacity :=
  runFrom attempt .empty steps

def accepted (capacity : Nat) (steps : List (ListStep bytes)) : List (ListStep bytes) :=
  acceptedFrom attempt (.empty : BoundedList (BoundedText bytes) capacity) steps

theorem pushText_refused (list : BoundedList (BoundedText bytes) capacity) (text : String)
    (unfit : ¬ (list.items.length < capacity ∧ text.utf8ByteSize ≤ bytes)) :
    list.pushText text =
      .error ((pushText text : ListStep bytes).refusal capacity list.items.length) := by
  rw [BoundedList.pushText, BoundedList.isFull, BoundedList.size, refusal]
  -- Only a list that has room looks at the text.
  by_cases room : list.items.length < capacity
  · have long : ¬ text.utf8ByteSize ≤ bytes := fun short => unfit ⟨room, short⟩
    have refused : (BoundedText.ofText text : Except CapacityError (BoundedText bytes)) =
        .error ⟨.textBytes, text.utf8ByteSize, bytes⟩ := dif_neg long
    rw [if_neg (by simpa using room), if_pos room, refused]
    rfl
  · rw [if_pos (by simpa using room), if_neg room]

/-- A refused step exceeds a limit by its very size. -/
theorem refusal_exceeds (held : Nat) (next : ListStep bytes) (unfit : ¬ next.Fits capacity held) :
    (next.refusal capacity held).capacity < (next.refusal capacity held).length := by
  cases next with
  | pushText text =>
      rw [refusal]
      rw [Fits] at unfit
      split
      · next room => exact Nat.lt_of_not_le fun short => unfit ⟨room, short⟩
      · next noRoom => exact Nat.lt_succ_of_le (Nat.le_of_not_lt noRoom)
  | push item => exact Nat.lt_succ_of_le (Nat.le_of_not_lt unfit)
  | replace items => exact Nat.lt_of_not_le unfit

/-- One step: it does what it says when there is room, and else it is refused for one reason. -/
theorem attempt_cases (list : BoundedList (BoundedText bytes) capacity) (next : ListStep bytes) :
    (next.Fits capacity list.items.length ∧
        ∃ after, next.attempt list = .ok after ∧ after.texts = next.effect list.texts) ∨
      (¬ next.Fits capacity list.items.length ∧
        next.attempt list = .error (next.refusal capacity list.items.length) ∧
          (next.refusal capacity list.items.length).capacity <
            (next.refusal capacity list.items.length).length) := by
  by_cases fits : next.Fits capacity list.items.length
  · refine Or.inl ⟨fits, ?_⟩
    cases next with
    | pushText text =>
        have grown := (pushText_ok_iff list ⟨list.items ++ [⟨text, fits.2⟩], by
          rw [List.length_append]; exact fits.1⟩ text).mpr ⟨⟨text, fits.2⟩, rfl, rfl⟩
        exact ⟨_, grown, List.map_append⟩
    | push item => exact ⟨_, dif_pos fits, List.map_append⟩
    | replace items => exact ⟨_, dif_pos fits, rfl⟩
  · refine Or.inr ⟨fits, ?_, refusal_exceeds _ next fits⟩
    cases next with
    | pushText text => exact pushText_refused list text fits
    | push item => exact dif_neg fits
    | replace items => exact dif_neg fits

theorem refusal_of_full (list : BoundedList (BoundedText bytes) capacity)
    (full : list.isFull = true) (next : ListStep bytes) (adds : next.isReplacement = false) :
    next.refusal capacity list.items.length = ⟨.elementCount, list.size + 1, capacity⟩ := by
  cases next with
  | pushText text => exact if_neg (Nat.not_lt_of_le (decide_eq_true_iff.mp full))
  | push item => rfl
  | replace items => cases adds

theorem run_texts (capacity : Nat) (steps : List (ListStep bytes)) :
    (run capacity steps).texts = (accepted capacity steps).foldl effect [] := by
  refine view_runFrom BoundedList.texts effect ?_ .empty steps
  intro before next after done
  rcases attempt_cases before next with ⟨_, other, same, grown⟩ | ⟨_, refused, _⟩
  · cases same.symm.trans done
    exact grown
  · cases refused.symm.trans done

theorem run_snoc (capacity : Nat) (steps : List (ListStep bytes)) (next : ListStep bytes) :
    run capacity (steps ++ [next]) = settle attempt (run capacity steps) next :=
  runFrom_snoc attempt .empty steps next

theorem run_settles (capacity : Nat) (steps : List (ListStep bytes)) (next : ListStep bytes) :
    Settles attempt (run capacity steps) next (run capacity (steps ++ [next]))
      (next.Fits capacity (run capacity steps).items.length)
      (fun after => after.texts = next.effect (run capacity steps).texts)
      (next.refusal capacity (run capacity steps).items.length) := by
  rw [run_snoc]
  exact settles_of_cases attempt _ next _ _ _ (attempt_cases (run capacity steps) next)

end ListStep

namespace BoundedText

variable {capacity : Nat}

def run (capacity : Nat) (texts : List String) : BoundedText capacity :=
  runFrom assign .empty texts

theorem assign_cases (before : BoundedText capacity) (next : String) :
    (next.utf8ByteSize ≤ capacity ∧ ∃ after, before.assign next = .ok after ∧ after.text = next) ∨
      (¬ next.utf8ByteSize ≤ capacity ∧
        before.assign next = .error ⟨.textBytes, next.utf8ByteSize, capacity⟩ ∧
          capacity < next.utf8ByteSize) := by
  by_cases short : next.utf8ByteSize ≤ capacity
  · exact Or.inl ⟨short, _, dif_pos short, rfl⟩
  · exact Or.inr ⟨short, dif_neg short, Nat.lt_of_not_le short⟩

/-- The last of some texts that is short enough; the empty text when there is none. -/
def lastFitting (capacity : Nat) (texts : List String) : String :=
  ((texts.filter fun text => text.utf8ByteSize ≤ capacity).getLast?).getD ""

theorem lastFitting_snoc (texts : List String) (next : String) :
    lastFitting capacity (texts ++ [next]) =
      if next.utf8ByteSize ≤ capacity then next else lastFitting capacity texts := by
  rw [lastFitting, List.filter_append]
  by_cases short : next.utf8ByteSize ≤ capacity
  · simp [short]
  · simp [short, lastFitting]

theorem run_snoc (capacity : Nat) (texts : List String) (next : String) :
    run capacity (texts ++ [next]) = settle assign (run capacity texts) next :=
  runFrom_snoc assign .empty texts next

theorem run_text (capacity : Nat) (texts : List String) :
    (run capacity texts).text = lastFitting capacity texts := by
  -- The induction takes texts off the end, for the last one decides first.
  induction texts using List.reverseRecOn with
  | nil => rfl
  | append_singleton texts next ih =>
      rw [run_snoc, lastFitting_snoc]
      rcases assign_cases (run capacity texts) next with
        ⟨short, after, done, same⟩ | ⟨long, refused, _⟩
      · rw [if_pos short]
        exact (congrArg BoundedText.text (settle_ok done)).trans same
      · rw [if_neg long, ← ih]
        exact congrArg BoundedText.text (settle_error refused)

theorem run_settles (capacity : Nat) (texts : List String) (next : String) :
    Settles assign (run capacity texts) next (run capacity (texts ++ [next]))
      (next.utf8ByteSize ≤ capacity) (fun after => after.text = next)
      ⟨.textBytes, next.utf8ByteSize, capacity⟩ := by
  rw [run_snoc]
  exact settles_of_cases assign _ next _ _ _ (assign_cases (run capacity texts) next)

end BoundedText

/-- Over every run a bounded list keeps both of its limits and holds what the accepted steps leave,
a replacement starting anew; one step more is accepted exactly when there is room for it, and a
refused one changes nothing and names the limit it exceeds, which for a list that is full is the
number of its elements. A bounded text holds the last text that was short enough, in the same way. -/
theorem runs_keep_limits (capacity bytes : Nat) :
    (∀ steps : List (ListStep bytes),
      (ListStep.run capacity steps).items.length ≤ capacity ∧
      (∀ text ∈ (ListStep.run capacity steps).texts, text.utf8ByteSize ≤ bytes) ∧
      (ListStep.run capacity steps).texts =
        (ListStep.accepted capacity steps).foldl ListStep.effect [] ∧
      ∀ next : ListStep bytes,
        Settles ListStep.attempt (ListStep.run capacity steps) next
          (ListStep.run capacity (steps ++ [next]))
          (next.Fits capacity (ListStep.run capacity steps).items.length)
          (fun after => after.texts = next.effect (ListStep.run capacity steps).texts)
          (next.refusal capacity (ListStep.run capacity steps).items.length) ∧
        ((ListStep.run capacity steps).isFull = true → next.isReplacement = false →
          next.refusal capacity (ListStep.run capacity steps).items.length =
            ⟨.elementCount, (ListStep.run capacity steps).size + 1, capacity⟩)) ∧
    ∀ texts : List String,
      (BoundedText.run bytes texts).text.utf8ByteSize ≤ bytes ∧
      (BoundedText.run bytes texts).text = BoundedText.lastFitting bytes texts ∧
      ∀ next,
        Settles BoundedText.assign (BoundedText.run bytes texts) next
          (BoundedText.run bytes (texts ++ [next])) (next.utf8ByteSize ≤ bytes)
          (fun after => after.text = next) ⟨.textBytes, next.utf8ByteSize, bytes⟩ := by
  constructor
  · intro steps
    refine ⟨(ListStep.run capacity steps).fits, ?_, ListStep.run_texts capacity steps,
      fun next => ⟨ListStep.run_settles capacity steps next, fun full adds =>
        ListStep.refusal_of_full _ full next adds⟩⟩
    intro text member
    obtain ⟨item, _, rfl⟩ := List.mem_map.mp member
    exact item.fits
  · intro texts
    exact ⟨(BoundedText.run bytes texts).fits, BoundedText.run_text bytes texts,
      BoundedText.run_settles bytes texts⟩

end NodePolicy
